/-
Module: OsmoMsc.Smpp.SmscBind
Purpose: An ACL points at the ESME that is bound with its system id, and that ESME points back, so that
  `smpp_route()` hands a message only to the owner of the route.  This needs that an ESME with an ACL does not
  unbind, that nobody else binds for the ACL while an ESME is on record for it, and that ACLs are neither
  deleted under ESMEs that outlive it nor added for ESMEs that are bound already.
Trusted boundary: none
Main exports: BoundRight, SmscInput.KeepsBinds, smscRun_boundRight
-/
import OsmoMsc.Smpp.SmscRoutes

namespace OsmoMsc.Smpp

open Library List

variable {s s' : Smsc} {id : Nat} {e : SmppEsme} {acl : Acl}

/-! ### The property -/

/-- The ESME is connected, bound, and its system id is the one of the ACL. -/
def SmppEsme.BoundAs (e : SmppEsme) (sysId : List Char) : Prop :=
  e.connected = true ∧ e.bindFlags.isSet = true ∧ e.systemId = sysId

instance (e : SmppEsme) (sysId : List Char) : Decidable (e.BoundAs sysId) :=
  inferInstanceAs (Decidable (_ ∧ _))

/-- The ACL is the one of a route for the destination, or the default route. -/
def Smsc.OwnsRoute (s : Smsc) (acl : Acl) (dest : SmppAddr) : Prop :=
  (∃ r ∈ acl.routes, r.hits dest = true) ∨ s.defRoute = some acl.id

/-- The pointers between ACLs and ESMEs are right, and routing follows them. -/
structure BoundRight (s : Smsc) : Prop where
  pointsAt : ∀ acl ∈ s.acls, ∀ id, acl.esme = some id →
    ∃ e ∈ s.esmes, e.id = id ∧ e.BoundAs acl.systemId ∧ e.acl = some acl.id
  only : ∀ acl ∈ s.acls, ∀ e ∈ s.esmes, e.BoundAs acl.systemId →
    (∀ other ∈ s.esmes, other.BoundAs acl.systemId → other = e) → acl.esme = some e.id
  route : ∀ dest, smppRoute s dest ≠ .freedAcl ∧ smppRoute s dest ≠ .freedEsme ∧
    ∀ id, smppRoute s dest = .esme id →
      ∃ acl ∈ s.acls, s.OwnsRoute acl dest ∧ ∃ e ∈ s.esmes, e.id = id ∧ e.BoundAs acl.systemId ∧
        e.authenticated = true
  noCrash : s.crashed = false

/-! ### Pointers -/

/-- ESMEs with an ACL are bound with its system id; the ACL points at them while they are connected. -/
structure BindInv (s : Smsc) : Prop where
  noCrash : s.crashed = false
  esmeIds : (s.esmes.map SmppEsme.id).Nodup
  freshEsmes : ∀ e ∈ s.esmes, e.id < s.newId
  systemIds : (s.acls.map Acl.systemId).Nodup
  used : ∀ e ∈ s.esmes, 1 ≤ e.use
  forth : ∀ acl ∈ s.acls, ∀ id, acl.esme = some id →
    ∃ e ∈ s.esmes, e.id = id ∧ e.connected = true ∧ e.acl = some acl.id
  back : ∀ e ∈ s.esmes, ∀ id, e.acl = some id →
    (e.bindFlags.isSet = true ∧ e.authenticated = true) ∧
      ∃ acl ∈ s.acls, acl.id = id ∧ acl.systemId = e.systemId ∧
        acl.esme = if e.connected then some e.id else none
  holder : ∀ e ∈ s.esmes, ∀ e' ∈ s.esmes, ∀ id, e.acl = some id → e'.acl = some id → e.id = e'.id
  complete : ∀ acl ∈ s.acls, ∀ e ∈ s.esmes, e.BoundAs acl.systemId → e.acl = some acl.id

theorem BindInv.esme_eq (inv : BindInv s) {e' : SmppEsme} (mem : e ∈ s.esmes) (mem' : e' ∈ s.esmes)
    (same : e.id = e'.id) : e = e' :=
  inj_on_of_nodup_map inv.esmeIds mem mem' same

theorem RoutesInv.acl_eq (inv : RoutesInv s) {acl' : Acl} (mem : acl ∈ s.acls) (mem' : acl' ∈ s.acls)
    (same : acl.id = acl'.id) : acl = acl' :=
  inj_on_of_nodup_map inv.ids mem mem' same

theorem BindInv.pointsAt (inv : BindInv s) (routes : RoutesInv s) (mem : acl ∈ s.acls)
    (points : acl.esme = some id) :
    ∃ e ∈ s.esmes, e.id = id ∧ e.BoundAs acl.systemId ∧ e.acl = some acl.id ∧
      e.authenticated = true := by
  obtain ⟨e, known, is, connected, back⟩ := inv.forth acl mem id points
  obtain ⟨bound, acl', mem', same, sysId, -⟩ := inv.back e known _ back
  rw [routes.acl_eq mem' mem same] at sysId
  exact ⟨e, known, is, ⟨connected, bound.1, sysId.symm⟩, back, bound.2⟩

theorem BindInv.points_of_boundAs (inv : BindInv s) (routes : RoutesInv s) (mem : acl ∈ s.acls)
    (known : e ∈ s.esmes) (bound : e.BoundAs acl.systemId) : acl.esme = some e.id := by
  obtain ⟨-, acl', mem', same, -, points⟩ := inv.back e known _ (inv.complete acl mem e known bound)
  rw [routes.acl_eq mem' mem same, bound.1] at points
  exact points

theorem BindInv.routeByAcl (inv : BindInv s) (routes : RoutesInv s) (mem : acl ∈ s.acls) :
    routeByAcl s acl.id ≠ .freedEsme ∧
      ∀ id, routeByAcl s acl.id = .esme id →
        ∃ e ∈ s.esmes, e.id = id ∧ e.BoundAs acl.systemId ∧ e.authenticated = true := by
  have found : s.findAcl acl.id = some acl := find_of_mem routes.ids mem
  unfold Smpp.routeByAcl
  rw [found]
  dsimp only
  cases points : acl.esme with
  | none => exact ⟨nofun, nofun⟩
  | some id =>
      obtain ⟨e, known, rfl, bound, -, authenticated⟩ := inv.pointsAt routes mem points
      have foundEsme : s.findEsme e.id = some e := find_of_mem inv.esmeIds known
      dsimp only
      rw [foundEsme]
      dsimp only
      split
      · exact ⟨nofun, fun id is => ⟨e, known, RouteResult.esme.inj is, bound, authenticated⟩⟩
      · exact ⟨nofun, nofun⟩

theorem BindInv.boundRight (inv : BindInv s) (routes : RoutesInv s) : BoundRight s where
  pointsAt acl mem id points := by
    obtain ⟨e, known, is, bound, back, -⟩ := inv.pointsAt routes mem points
    exact ⟨e, known, is, bound, back⟩
  only acl mem e known bound _ := inv.points_of_boundAs routes mem known bound
  route dest := by
    refine ⟨routes.inOrder.live dest, ?_⟩
    rcases routes.smppRoute_eq dest with unassigned | ⟨acl, mem, is, owns⟩
    · rw [unassigned]
      exact ⟨nofun, nofun⟩
    · obtain ⟨notFreed, bound⟩ := inv.routeByAcl routes mem
      rw [is]
      exact ⟨notFreed, fun id hands => ⟨acl, mem, owns, bound id hands⟩⟩
  noCrash := inv.noCrash

/-! ### ESMEs -/

/-- `acl->esme = NULL` for the ACL of an ESME. -/
def clearEsme (of : Option Nat) (acls : List Acl) : List Acl :=
  acls.map fun acl => if some acl.id = of then { acl with esme := none } else acl

theorem mem_clearEsme {of : Option Nat} {acls : List Acl} : acl ∈ clearEsme of acls ↔
    (∃ old ∈ acls, some old.id = of ∧ acl = { old with esme := none }) ∨ (acl ∈ acls ∧ some acl.id ≠ of) := by
  unfold clearEsme
  rw [mem_map]
  constructor
  · rintro ⟨old, mem, rfl⟩
    split
    · rename_i same
      exact .inl ⟨old, mem, same, rfl⟩
    · rename_i other
      exact .inr ⟨mem, other⟩
  · rintro (⟨old, mem, same, rfl⟩ | ⟨mem, other⟩)
    · exact ⟨old, mem, if_pos same⟩
    · exact ⟨acl, mem, if_neg other⟩

theorem clearEsme_systemIds (of : Option Nat) (acls : List Acl) :
    (clearEsme of acls).map Acl.systemId = acls.map Acl.systemId := by
  unfold clearEsme
  rw [map_map]
  refine map_congr_left fun acl _ => ?_
  dsimp only [Function.comp_apply]
  split <;> rfl

variable {esmes : List SmppEsme}

/-- An ESME goes away, or stays on record without a connection; its ACL forgets it. -/
theorem BindInv.drop (inv : BindInv s) (mem : e ∈ s.esmes) (ids : (esmes.map SmppEsme.id).Nodup)
    (others : ∀ x ∈ s.esmes, x.id ≠ e.id → x ∈ esmes)
    (old : ∀ x ∈ esmes, (x ∈ s.esmes ∧ x.id ≠ e.id) ∨
      (1 ≤ x.use ∧ x = { e with connected := false, use := x.use })) :
    BindInv { s with esmes := esmes, acls := clearEsme e.acl s.acls } := by
  -- every record was there before, with the same name and ACL
  have was (x : SmppEsme) (now : x ∈ esmes) : ∃ x₀ ∈ s.esmes, x₀.id = x.id ∧ x₀.acl = x.acl ∧ 1 ≤ x.use := by
    rcases old x now with ⟨known, -⟩ | ⟨use, is⟩
    · exact ⟨x, known, rfl, rfl, inv.used x known⟩
    · exact ⟨e, mem, by rw [is], by rw [is], use⟩
  refine ⟨inv.noCrash, ids, fun x now => ?_, ?_, fun x now => ?_, fun acl mem' id points => ?_,
    fun x now id back => ?_, fun x now x' now' id back back' => ?_, fun acl mem' x now bound => ?_⟩
  · obtain ⟨x₀, known, id, -⟩ := was x now
    exact id ▸ inv.freshEsmes x₀ known
  · rw [clearEsme_systemIds]
    exact inv.systemIds
  · obtain ⟨-, -, -, -, use⟩ := was x now
    exact use
  · rcases mem_clearEsme.mp mem' with ⟨old, -, -, rfl⟩ | ⟨known, other⟩
    · exact absurd points nofun
    · obtain ⟨x, knownEsme, id, connected, back⟩ := inv.forth acl known id points
      refine ⟨x, others x knownEsme fun same => other ?_, id, connected, back⟩
      rw [← back, inv.esme_eq knownEsme mem same]
  · rcases old x now with ⟨known, other⟩ | ⟨-, is⟩
    · obtain ⟨bound, acl, mem', rfl, sysId, points⟩ := inv.back x known id back
      refine ⟨bound, acl, mem_clearEsme.mpr (.inr ⟨mem', fun same => other ?_⟩), rfl, sysId, points⟩
      exact inv.holder x known e mem _ back same.symm
    · rw [is] at back ⊢
      obtain ⟨bound, acl, mem', rfl, sysId, points⟩ := inv.back e mem id back
      exact ⟨bound, { acl with esme := none }, mem_clearEsme.mpr (.inl ⟨acl, mem', back.symm, rfl⟩), rfl,
        sysId, rfl⟩
  · obtain ⟨x₀, known, is, same, -⟩ := was x now
    obtain ⟨x₀', known', is', same', -⟩ := was x' now'
    rw [← is, ← is']
    exact inv.holder x₀ known x₀' known' id (same.trans back) (same'.trans back')
  · rcases old x now with ⟨known, -⟩ | ⟨-, is⟩
    · rcases mem_clearEsme.mp mem' with ⟨old, known', -, rfl⟩ | ⟨known', -⟩
      · exact inv.complete old known' x known bound
      · exact inv.complete acl known' x known bound
    · rw [is] at bound
      exact absurd bound.1 nofun

/-- ESMEs with an ACL stay, but for the count of references; others may change as long as no ACL could
be theirs. -/
theorem BindInv.withEsmes (inv : BindInv s) {newId : Nat} (ids : (esmes.map SmppEsme.id).Nodup)
    (fresh : ∀ x ∈ esmes, x.id < newId)
    (records : ∀ x ∈ esmes, 1 ≤ x.use ∧ ((∃ x₀ ∈ s.esmes, x = { x₀ with use := x.use }) ∨
      x.acl = none ∧ ∀ acl ∈ s.acls, ¬ x.BoundAs acl.systemId))
    (kept : ∀ x₀ ∈ s.esmes, x₀.acl ≠ none → ∃ x ∈ esmes, x = { x₀ with use := x.use }) :
    BindInv { s with esmes := esmes, newId := newId } := by
  have was (x : SmppEsme) (now : x ∈ esmes) {id : Nat} (back : x.acl = some id) :
      ∃ x₀ ∈ s.esmes, x = { x₀ with use := x.use } := by
    refine (records x now).2.resolve_right fun new => ?_
    exact absurd (back.symm.trans new.1) nofun
  refine ⟨inv.noCrash, ids, fresh, inv.systemIds, fun x now => (records x now).1,
    fun acl mem id points => ?_, fun x now id back => ?_, fun x now x' now' id back back' => ?_,
    fun acl mem x now bound => ?_⟩
  · obtain ⟨x₀, known, id, connected, back⟩ := inv.forth acl mem id points
    obtain ⟨x, now, is⟩ := kept x₀ known (by simp [back])
    rw [is] at now
    exact ⟨_, now, id, connected, back⟩
  · obtain ⟨x₀, known, is⟩ := was x now back
    rw [is] at back ⊢
    exact inv.back x₀ known id back
  · obtain ⟨x₀, known, is⟩ := was x now back
    obtain ⟨x₀', known', is'⟩ := was x' now' back'
    rw [is] at back ⊢
    rw [is'] at back' ⊢
    exact inv.holder x₀ known x₀' known' id back back'
  · rcases (records x now).2 with ⟨x₀, known, is⟩ | ⟨-, unknown⟩
    · rw [is] at bound ⊢
      exact inv.complete acl mem x₀ known bound
    · exact absurd bound (unknown acl mem)

variable {f : SmppEsme → SmppEsme}

section

variable (inv : BindInv s)
include inv

theorem BindInv.mem_adjustEsme (mem : e ∈ s.esmes) {x : SmppEsme}
    (now : x ∈ adjust SmppEsme.id e.id f s.esmes) : x = f e ∨ (x ∈ s.esmes ∧ x.id ≠ e.id) := by
  rcases mem_adjust.mp now with ⟨old, known, same, rfl⟩ | other
  · exact .inl (by rw [inv.esme_eq known mem same])
  · exact .inr other

/-- One ESME is written: it has no ACL before and after, or only its references are counted. -/
theorem BindInv.adjustEsme (mem : e ∈ s.esmes) (keepsId : ∀ x, (f x).id = x.id)
    (use : 1 ≤ (f e).use) (record : f e = { e with use := (f e).use } ∨
      e.acl = none ∧ (f e).acl = none ∧ ∀ acl ∈ s.acls, ¬ (f e).BoundAs acl.systemId) :
    BindInv { s with esmes := adjust SmppEsme.id e.id f s.esmes } := by
  refine inv.withEsmes ?_ (fun x now => ?_) (fun x now => ?_) (fun x₀ known some_ => ?_)
  · rw [map_adjust keepsId]
    exact inv.esmeIds
  · rcases inv.mem_adjustEsme mem now with rfl | ⟨known, -⟩
    · exact keepsId e ▸ inv.freshEsmes e mem
    · exact inv.freshEsmes x known
  · rcases inv.mem_adjustEsme mem now with rfl | ⟨known, -⟩
    · exact ⟨use, record.imp (fun is => ⟨e, mem, is⟩) And.right⟩
    · exact ⟨inv.used x known, .inl ⟨x, known, rfl⟩⟩
  · by_cases same : x₀.id = e.id
    · obtain rfl := inv.esme_eq known mem same
      exact ⟨f x₀, mem_adjust.mpr (.inl ⟨x₀, known, rfl, rfl⟩),
        record.resolve_right fun none_ => some_ none_.1⟩
    · exact ⟨x₀, mem_adjust.mpr (.inr ⟨known, same⟩), rfl⟩

/-- Another reference to an ESME, or one less. -/
theorem BindInv.setUse (mem : e ∈ s.esmes) {g : Nat → Nat} (use : 1 ≤ g e.use) :
    BindInv { s with esmes := adjust SmppEsme.id e.id (fun x => { x with use := g x.use }) s.esmes } := by
  refine inv.adjustEsme mem ?_ use (.inl rfl)
  exact fun _ => rfl

/-- An ESME binds for an ACL that no other ESME is on record for. -/
theorem BindInv.bindAcl (mem : e ∈ s.esmes) (none_ : e.acl = none) (connected : e.connected = true)
    (known : acl ∈ s.acls) (free : ∀ x ∈ s.esmes, x.acl = some acl.id → x.id = e.id) {version : Nat}
    {flags : BindFlags} (set_ : flags.isSet = true) :
    BindInv { s with
      esmes := adjust SmppEsme.id e.id (fun x => { x with
        smppVersion := version, systemId := acl.systemId, acl := some acl.id, bindFlags := flags
        authenticated := true }) s.esmes
      acls := adjust Acl.id acl.id (fun acl => { acl with esme := some e.id }) s.acls } := by
  generalize bind : (fun x : SmppEsme => { x with
    smppVersion := version, systemId := acl.systemId, acl := some acl.id, bindFlags := flags
    authenticated := true }) = f
  have is : f e = { e with
      smppVersion := version, systemId := acl.systemId, acl := some acl.id, bindFlags := flags
      authenticated := true } := by
    rw [← bind]
  have keepsId (x : SmppEsme) : (f x).id = x.id := by rw [← bind]
  have bound_mem : f e ∈ adjust SmppEsme.id e.id f s.esmes := mem_adjust.mpr (.inl ⟨e, mem, rfl, rfl⟩)
  refine ⟨inv.noCrash, ?_, fun x now => ?_, ?_, fun x now => ?_, fun acl' mem' id points => ?_,
    fun x now id back => ?_, fun x now x' now' id back back' => ?_, fun acl' mem' x now bound => ?_⟩
  · dsimp only
    rw [map_adjust keepsId]
    exact inv.esmeIds
  · rcases inv.mem_adjustEsme mem now with rfl | ⟨known, -⟩
    · exact keepsId e ▸ inv.freshEsmes e mem
    · exact inv.freshEsmes x known
  · dsimp only
    rw [map_adjust (by intro _; rfl)]
    exact inv.systemIds
  · rcases inv.mem_adjustEsme mem now with rfl | ⟨known, -⟩
    · rw [is]
      exact inv.used e mem
    · exact inv.used x known
  · rcases mem_adjust.mp mem' with ⟨old, -, same, rfl⟩ | ⟨known', other⟩
    · exact ⟨f e, bound_mem, (keepsId e).trans (Option.some.inj points), by rw [is]; exact connected,
        by rw [is]; exact congrArg some same.symm⟩
    · obtain ⟨x, knownEsme, id, connected', back⟩ := inv.forth acl' known' id points
      refine ⟨x, mem_adjust.mpr (.inr ⟨knownEsme, fun same => ?_⟩), id, connected', back⟩
      rw [inv.esme_eq knownEsme mem same, none_] at back
      exact absurd back nofun
  · rcases inv.mem_adjustEsme mem now with rfl | ⟨knownEsme, other⟩
    · rw [is] at back ⊢
      refine ⟨⟨set_, rfl⟩, { acl with esme := some e.id }, mem_adjust.mpr (.inl ⟨acl, known, rfl, rfl⟩),
        Option.some.inj back, rfl, ?_⟩
      dsimp only
      rw [connected]
      rfl
    · obtain ⟨bound, acl', mem', rfl, sysId, points⟩ := inv.back x knownEsme id back
      refine ⟨bound, acl', mem_adjust.mpr (.inr ⟨mem', fun same => other ?_⟩), rfl, sysId, points⟩
      exact free x knownEsme (same ▸ back)
  · rcases inv.mem_adjustEsme mem now with rfl | ⟨knownEsme, other⟩ <;>
      rcases inv.mem_adjustEsme mem now' with rfl | ⟨knownEsme', other'⟩
    · rfl
    · rw [is] at back
      exact absurd (free x' knownEsme' (back'.trans back.symm)) other'
    · rw [is] at back'
      exact absurd (free x knownEsme (back.trans back'.symm)) other
    · exact inv.holder x knownEsme x' knownEsme' id back back'
  · have was : ∃ old ∈ s.acls, old.id = acl'.id ∧ old.systemId = acl'.systemId := by
      rcases mem_adjust.mp mem' with ⟨old, known', -, rfl⟩ | ⟨known', -⟩
      · exact ⟨old, known', rfl, rfl⟩
      · exact ⟨acl', known', rfl, rfl⟩
    obtain ⟨old, known', id, sysId⟩ := was
    rw [← id]
    rw [← sysId] at bound
    rcases inv.mem_adjustEsme mem now with rfl | ⟨knownEsme, -⟩
    · rw [is] at bound ⊢
      exact congrArg some (congrArg Acl.id
        (inj_on_of_nodup_map inv.systemIds known known' bound.2.2))
    · exact inv.complete old known' x knownEsme bound

/-- A new connection. -/
theorem BindInv.addEsme : BindInv (linkAcceptCb s) := by
  refine inv.withEsmes (nodup_map_concat inv.esmeIds fun x known => Nat.ne_of_lt (inv.freshEsmes x known))
    (lt_succ_of_concat inv.freshEsmes) (fun x now => ?_) fun x₀ known _ =>
    ⟨x₀, mem_append_left _ known, rfl⟩
  rcases mem_concat.mp now with known | rfl
  · exact ⟨inv.used x known, .inl ⟨x, known, rfl⟩⟩
  · exact ⟨Nat.le_refl 1, .inr ⟨rfl, fun acl _ bound => absurd bound.2.1 nofun⟩⟩

end

/-! ### ACLs -/

/-- The part of an ACL that binding is about. -/
def Acl.binding (acl : Acl) : Nat × List Char × Option Nat := (acl.id, acl.systemId, acl.esme)

/-- ESMEs are the same, and so are the ACLs, but for passwords and routes. -/
structure SameBinds (s s' : Smsc) : Prop where
  esmes : s'.esmes = s.esmes
  acls : s'.acls.map Acl.binding = s.acls.map Acl.binding
  newId : s.newId ≤ s'.newId
  crashed : s'.crashed = s.crashed

theorem mem_of_binding {acls acls' : List Acl} (same : acls'.map Acl.binding = acls.map Acl.binding)
    (mem : acl ∈ acls') : ∃ old ∈ acls, old.id = acl.id ∧ old.systemId = acl.systemId ∧ old.esme = acl.esme := by
  obtain ⟨old, mem', is⟩ := mem_of_map_eq same mem
  exact ⟨old, mem', congrArg Prod.fst is, congrArg (·.2.1) is, congrArg (·.2.2) is⟩

theorem BindInv.of_same (inv : BindInv s) (same : SameBinds s s') : BindInv s' where
  noCrash := same.crashed.trans inv.noCrash
  esmeIds := same.esmes ▸ inv.esmeIds
  freshEsmes x now := Nat.lt_of_lt_of_le (inv.freshEsmes x (same.esmes ▸ now)) same.newId
  systemIds := by
    have sysIds := congrArg (List.map (·.2.1)) same.acls
    simp only [map_map] at sysIds
    exact sysIds ▸ inv.systemIds
  used x now := inv.used x (same.esmes ▸ now)
  forth acl mem id points := by
    obtain ⟨old, mem', is, -, esme⟩ := mem_of_binding same.acls mem
    rw [same.esmes, ← is]
    exact inv.forth old mem' id (esme.trans points)
  back x now id back := by
    obtain ⟨bound, acl, mem, rfl, sysId, points⟩ := inv.back x (same.esmes ▸ now) id back
    obtain ⟨acl', mem', id, sysId', esme⟩ := mem_of_binding same.acls.symm mem
    exact ⟨bound, acl', mem', id, sysId'.trans sysId, esme.trans points⟩
  holder x now x' now' := inv.holder x (same.esmes ▸ now) x' (same.esmes ▸ now')
  complete acl mem x now bound := by
    obtain ⟨old, mem', id, sysId, -⟩ := mem_of_binding same.acls mem
    rw [← id]
    rw [← sysId] at bound
    exact inv.complete old mem' x (same.esmes ▸ now) bound

/-- An ACL that nobody is bound with. -/
theorem BindInv.addAcl (inv : BindInv s) {sysId : List Char}
    (unknown : smppAclBySystemId s sysId = none) (unbound : ∀ x ∈ s.esmes, ¬ x.BoundAs sysId) :
    BindInv { s with acls := s.acls ++ [{ id := s.newId, systemId := sysId }], newId := s.newId + 1 } := by
  refine ⟨inv.noCrash, inv.esmeIds, fun x now => Nat.lt_succ_of_lt (inv.freshEsmes x now), ?_, inv.used,
    fun acl mem id points => ?_, fun x now id back => ?_, inv.holder, fun acl mem x now bound => ?_⟩
  · refine nodup_map_concat inv.systemIds fun acl known same => ?_
    exact absurd (find?_eq_none.mp unknown acl known) (by simpa using same)
  · rcases mem_concat.mp mem with known | rfl
    · exact inv.forth acl known id points
    · exact absurd points nofun
  · obtain ⟨bound, acl, known, rest⟩ := inv.back x now id back
    exact ⟨bound, acl, mem_append_left _ known, rest⟩
  · rcases mem_concat.mp mem with known | rfl
    · exact inv.complete acl known x now bound
    · exact absurd bound (unbound x now)

/-- An ACL that no ESME is on record for. -/
theorem BindInv.removeAcl (inv : BindInv s) (id : Nat) (routeList : List Route)
    (free : ∀ x ∈ s.esmes, x.acl ≠ some id) :
    BindInv { s with acls := remove Acl.id id s.acls, routeList := routeList } := by
  refine ⟨inv.noCrash, inv.esmeIds, inv.freshEsmes, nodup_map_remove inv.systemIds, inv.used,
    fun acl mem id points => inv.forth acl (mem_remove.mp mem).1 id points, fun x now id' back => ?_, inv.holder,
    fun acl mem x now bound => inv.complete acl (mem_remove.mp mem).1 x now bound⟩
  obtain ⟨bound, acl, known, rfl, rest⟩ := inv.back x now id' back
  exact ⟨bound, acl, mem_remove.mpr ⟨known, fun same => free x now (same ▸ back)⟩, rfl, rest⟩

/-! ### The operations -/

theorem Smsc.onEsme_found (found : s.findEsme id = some e) (f : SmppEsme → SmppEsme) :
    s.onEsme id f = { s with esmes := adjust SmppEsme.id id f s.esmes } := by
  unfold Smsc.onEsme Smsc.withEsme
  rw [found]

theorem Smsc.update_alive (alive : s.crashed = false) (f : Smsc → Smsc) : s.update f = f s := by
  unfold Smsc.update
  rw [alive]
  rfl

/-- The ACL of an ESME is there, so that `acl->esme` can be written. -/
theorem BindInv.forgetEsme (inv : BindInv s) (routes : RoutesInv s) (mem : e ∈ s.esmes)
    (esmes : List SmppEsme) :
    Smsc.forgetEsme { s with esmes := esmes } e.acl =
      { s with esmes := esmes, acls := clearEsme e.acl s.acls } := by
  cases back : e.acl with
  | none =>
      have same : clearEsme none s.acls = s.acls := by simp [clearEsme]
      rw [same]
      rfl
  | some id =>
      obtain ⟨-, acl, known, rfl, -⟩ := inv.back e mem id back
      have found : Smsc.findAcl { s with esmes := esmes } acl.id = some acl := find_of_mem routes.ids known
      refine (Smsc.onAcl_found found _).trans ?_
      simp [clearEsme, adjust]

theorem BindInv.findEsme (inv : BindInv s) (mem : e ∈ s.esmes) : s.findEsme e.id = some e :=
  find_of_mem inv.esmeIds mem

theorem findEsme_adjust (found : s.findEsme id = some e) (keepsId : ∀ x, (f x).id = x.id) :
    Smsc.findEsme { s with esmes := adjust SmppEsme.id id f s.esmes } id = some (f e) :=
  (find_adjust keepsId).trans (congrArg (Option.map f) found)

/-- A reference goes, and the ESME with the last one. -/
theorem smppEsmePut_eq (alive : s.crashed = false) (found : s.findEsme id = some e) :
    smppEsmePut s id =
      if e.use - 1 = 0 then Smsc.forgetEsme { s with esmes := remove SmppEsme.id id s.esmes } e.acl
      else { s with esmes := adjust SmppEsme.id id (fun x => { x with use := x.use - 1 }) s.esmes } := by
  have is : e.id = id := (mem_of_find found).2
  unfold smppEsmePut
  rw [Smsc.onEsme_found found]
  dsimp only
  rw [Smsc.update_alive (by exact alive)]
  unfold Smsc.withEsme
  rw [findEsme_adjust found (by intro _; rfl)]
  unfold esmeDestroy
  dsimp only
  rw [is, remove_adjust (by intro _; rfl)]

section

variable (inv : BindInv s)
include inv

theorem BindInv.destroy (mem : e ∈ s.esmes) :
    BindInv { s with esmes := remove SmppEsme.id e.id s.esmes, acls := clearEsme e.acl s.acls } := by
  refine inv.drop mem (nodup_map_remove inv.esmeIds) (fun x known other => mem_remove.mpr ⟨known, other⟩) ?_
  exact fun x now => .inl (mem_remove.mp now)

theorem BindInv.esmePut (routes : RoutesInv s) (mem : e ∈ s.esmes) :
    BindInv (smppEsmePut s e.id) := by
  rw [smppEsmePut_eq inv.noCrash (inv.findEsme mem)]
  split
  · rw [inv.forgetEsme routes mem]
    exact inv.destroy mem
  · rename_i more
    exact inv.setUse (g := fun use => use - 1) mem (Nat.pos_of_ne_zero more)

theorem BindInv.close (routes : RoutesInv s) (mem : e ∈ s.esmes) : BindInv (closeLink s e.id) := by
  have found := inv.findEsme mem
  unfold closeLink Smsc.withEsme
  rw [found]
  dsimp only
  have closed : BindInv ((s.onEsme e.id fun e => { e with connected := false }).forgetEsme e.acl) := by
    rw [Smsc.onEsme_found found, inv.forgetEsme routes mem]
    refine inv.drop mem ?_ (fun x known other => mem_adjust.mpr (.inr ⟨known, other⟩)) fun x now => ?_
    · rw [map_adjust (by intro _; rfl)]
      exact inv.esmeIds
    · rcases mem_adjust.mp now with ⟨old, known, same, rfl⟩ | other
      · rw [inv.esme_eq known mem same]
        exact .inr ⟨inv.used e mem, rfl⟩
      · exact .inl other
  have stays : { e with connected := false } ∈
      ((s.onEsme e.id fun e => { e with connected := false }).forgetEsme e.acl).esmes := by
    rw [Smsc.onEsme_found found, inv.forgetEsme routes mem]
    exact mem_adjust.mpr (.inl ⟨e, mem, rfl, rfl⟩)
  rw [Smsc.update_alive closed.noCrash]
  exact closed.esmePut (e := { e with connected := false })
    (routes.of_same ((SameRoutes.refl s).onEsme.forgetEsme e.acl)) stays

/-- The ESME that the ACL points at goes with it. -/
theorem BindInv.kill (routes : RoutesInv s) (mem : e ∈ s.esmes) (last : e.use = 1) :
    killEsme s (some e.id) =
      { s with esmes := remove SmppEsme.id e.id s.esmes, acls := clearEsme e.acl s.acls } := by
  have found := inv.findEsme mem
  unfold killEsme
  dsimp only
  rw [Smsc.onEsme_found found, Smsc.update_alive (by exact inv.noCrash)]
  have closed := findEsme_adjust found (f := fun e => { e with connected := false }) (by intro _; rfl)
  rw [smppEsmePut_eq (by exact inv.noCrash) closed, if_pos (by simp [last])]
  dsimp only
  rw [remove_adjust (by intro _; rfl)]
  exact inv.forgetEsme routes mem _

/-- Every ESME on record for the ACL is connected, and nothing else refers to it. -/
theorem BindInv.aclDelete (routes : RoutesInv s) (mem : acl ∈ s.acls)
    (alone : ∀ x ∈ s.esmes, x.acl = some acl.id → x.connected = true ∧ x.use = 1) :
    BindInv (smppAclDelete s acl.id) := by
  have found : s.findAcl acl.id = some acl := find_of_mem routes.ids mem
  -- the ACL points at whoever is on record for it
  have points (x : SmppEsme) (known : x ∈ s.esmes) (back : x.acl = some acl.id) : acl.esme = some x.id := by
    obtain ⟨-, acl', mem', same, -, points⟩ := inv.back x known _ back
    rw [routes.acl_eq mem' mem same, (alone x known back).1] at points
    exact points
  unfold smppAclDelete Smsc.withAcl
  rw [found]
  dsimp only
  cases esme : acl.esme with
  | none =>
      unfold killEsme
      dsimp only
      rw [Smsc.update_alive inv.noCrash]
      refine inv.removeAcl acl.id _ fun x known back => ?_
      rw [points x known back] at esme
      exact absurd esme nofun
  | some id =>
      obtain ⟨e, known, rfl, -, back⟩ := inv.forth acl mem id esme
      rw [inv.kill routes known (alone e known back).2, Smsc.update_alive (by exact inv.noCrash)]
      refine (inv.destroy known).removeAcl acl.id _ fun x now back' => ?_
      obtain ⟨known', other⟩ := mem_remove.mp now
      exact other (inv.holder x known' e known acl.id back' back)

end

/-! ### Runs -/

/-- What the pointers rest on, besides the routes: an ESME with an ACL does not unbind; a bind that an ACL
lets through has the password of the ACL, whatever the policy, and comes while no other ESME is on record
for the ACL; ACLs are added while nobody is bound with the system id, and deleted while every ESME on
record is connected and nothing but its link refers to it. -/
def SmscInput.KeepsBinds (s : Smsc) : SmscInput → Prop
  | .bind esme _ _ sysId passwd => ∀ acl ∈ smppAclBySystemId s (sysId.take smppSysIdLen),
      (s.acceptAll = true → acl.takes passwd = true) ∧
        (acl.takes passwd = true → ∀ x ∈ s.esmes, x.acl = some acl.id → x.id = esme)
  | .unbind esme => ∀ e ∈ s.findEsme esme, e.acl = none
  | .aclAdd sysId => smppAclBySystemId s sysId = none → ∀ x ∈ s.esmes, ¬ x.BoundAs sysId
  | .aclDelete sysId => ∀ acl ∈ smppAclBySystemId s sysId,
      ∀ x ∈ s.esmes, x.acl = some acl.id → x.connected = true ∧ x.use = 1
  | .password id _ => ∃ acl ∈ s.acls, s.findAcl id = some acl
  | _ => True

instance (s : Smsc) : DecidablePred (SmscInput.KeepsBinds s)
  | .bind .. | .unbind _ | .aclAdd _ | .aclDelete _ | .password .. => by
      dsimp only [SmscInput.KeepsBinds]
      infer_instance
  | .accept | .closed _ | .smsTaken _ | .smsFreed _ | .routeAdd .. | .routeDel .. | .defaultRoute _
  | .noDefaultRoute _ | .policy _ => .isTrue trivial

theorem BindKind.flags_isSet (kind : BindKind) : kind.flags.isSet = true := by cases kind <;> rfl

theorem BindInv.unbound_noAcl (inv : BindInv s) (mem : e ∈ s.esmes) (unbound : e.bindFlags.isSet = false) :
    e.acl = none := by
  cases back : e.acl with
  | none => rfl
  | some id =>
      have bound := (inv.back e mem id back).1.1
      rw [unbound] at bound
      exact absurd bound nofun

theorem BindInv.bind (inv : BindInv s) (routes : RoutesInv s) (mem : e ∈ s.esmes) (connected : e.connected = true)
    (ifVersion : Nat) (kind : BindKind) (sysId passwd : List Char)
    (free : ∀ acl ∈ smppAclBySystemId s (sysId.take smppSysIdLen),
      (s.acceptAll = true → acl.takes passwd = true) ∧
        (acl.takes passwd = true → ∀ x ∈ s.esmes, x.acl = some acl.id → x.id = e.id)) :
    BindInv (processBind s e.id ifVersion kind sysId passwd).1 := by
  have found := inv.findEsme mem
  unfold processBind
  rw [found]
  dsimp only
  split
  · exact inv
  split
  · exact inv
  rename_i version unbound
  have noAcl := inv.unbound_noAcl mem (Bool.eq_false_iff.mpr unbound)
  -- what a bind that is refused leaves behind: the ESME is not bound
  have refused : BindInv (s.onEsme e.id fun e =>
      { e with smppVersion := ifVersion, systemId := sysId.take smppSysIdLen }) := by
    rw [Smsc.onEsme_found found]
    refine inv.adjustEsme mem (by intro _; rfl) (inv.used e mem)
      (.inr ⟨noAcl, noAcl, fun acl _ bound => ?_⟩)
    exact unbound bound.2.1
  split
  · rename_i unknown
    split
    · exact refused
    · rw [Smsc.onEsme_found found] at unknown ⊢
      rw [Smsc.onEsme_found (findEsme_adjust found (by intro _; rfl))]
      dsimp only
      rw [adjust_adjust (by intro _; rfl)]
      refine inv.adjustEsme mem (by intro _; rfl) (inv.used e mem)
        (.inr ⟨noAcl, noAcl, fun acl mem' bound => ?_⟩)
      exact absurd (find?_eq_none.mp unknown acl mem') (by simpa using bound.2.2.symm)
  · rename_i acl known
    split
    · exact refused
    · rename_i lets
      rw [Smsc.onEsme_found found] at known lets ⊢
      rw [Smsc.onEsme_found (findEsme_adjust found (by intro _; rfl))]
      dsimp only
      rw [adjust_adjust (by intro _; rfl)]
      have mem' : acl ∈ s.acls := mem_of_find?_eq_some known
      have sysId_eq : acl.systemId = sysId.take smppSysIdLen := by
        simpa using find?_some known
      obtain ⟨checked, alone⟩ := free acl known
      have takes : acl.takes passwd = true := by
        by_cases all : s.acceptAll = true
        · exact checked all
        · simpa [all] using lets
      have found' (esmes : List SmppEsme) : Smsc.findAcl { s with esmes := esmes } acl.id = some acl :=
        find_of_mem routes.ids mem'
      rw [Smsc.onAcl_found (found' _), ← sysId_eq, takes]
      exact inv.bindAcl mem noAcl connected mem' (alone takes) kind.flags_isSet

theorem Smsc.who_is {p : SmppEsme → Bool} (is : (s.findEsme id).any p = true) :
    ∃ e ∈ s.esmes, e.id = id ∧ p e = true := by
  obtain ⟨e, found, holds⟩ := (Option.any_eq_true _ _).mp is
  obtain ⟨mem, same⟩ := mem_of_find found
  exact ⟨e, mem, same, holds⟩

theorem BindInv.ifConnected (inv : BindInv s) {k : Smsc}
    (keeps : ∀ e ∈ s.esmes, e.id = id → e.connected = true → BindInv k) : BindInv (s.ifConnected id k) := by
  unfold Smsc.ifConnected
  split
  · rename_i is
    obtain ⟨e, mem, same, connected⟩ := Smsc.who_is is
    exact keeps e mem same connected
  · exact inv

/-- One input keeps the pointers. -/
theorem smscStep_bindInv {s : Smsc} {input : SmscInput} (inv : BindInv s) (routes : RoutesInv s)
    (keepsRoutes : input.KeepsRoutes s) (keeps : input.KeepsBinds s) : BindInv (smscStep s input) := by
  unfold smscStep
  rw [Smsc.update_alive inv.noCrash]
  cases input with
  | accept => exact inv.addEsme
  | bind esme ifVersion kind sysId passwd =>
      refine inv.ifConnected fun e mem is connected => ?_
      subst is
      exact inv.bind routes mem connected ifVersion kind sysId passwd keeps
  | unbind esme =>
      refine inv.ifConnected fun e mem is _ => ?_
      subst is
      have found := inv.findEsme mem
      unfold smppHandleUnbind
      rw [Smsc.onEsme_found found]
      have noAcl : e.acl = none := keeps e found
      refine inv.adjustEsme mem (by intro _; rfl) (inv.used e mem)
        (.inr ⟨noAcl, noAcl, fun acl _ bound => ?_⟩)
      exact absurd bound.2.1 nofun
  | closed esme =>
      refine inv.ifConnected fun e mem is _ => ?_
      subst is
      exact inv.close routes mem
  | smsTaken esme =>
      refine inv.ifConnected fun e mem is _ => ?_
      subst is
      unfold smppEsmeGet
      rw [Smsc.onEsme_found (inv.findEsme mem)]
      exact inv.setUse (g := fun use => use + 1) mem (Nat.le_add_left 1 e.use)
  | smsFreed esme =>
      dsimp only
      split
      · rename_i is
        obtain ⟨e, mem, rfl, -⟩ := Smsc.who_is is
        exact inv.esmePut routes mem
      · exact inv
  | aclAdd sysId =>
      dsimp only
      unfold smppAclAlloc
      split
      · exact inv
      split
      · exact inv
      · rename_i unknown
        have none_ : smppAclBySystemId s sysId = none := by simpa using unknown
        exact inv.addAcl none_ (keeps none_)
  | aclDelete sysId =>
      dsimp only
      split
      · exact inv
      · rename_i acl found
        exact inv.aclDelete routes (mem_of_find?_eq_some found) (keeps acl found)
  | password id passwd =>
      obtain ⟨acl, -, found⟩ := keeps
      dsimp only
      split
      · exact inv
      · rw [Smsc.onAcl_found found]
        exact inv.of_same ⟨rfl, map_adjust (by intro _; rfl), Nat.le_refl _, rfl⟩
  | routeAdd id pfx =>
      obtain ⟨acl, -, found⟩ := keepsRoutes
      dsimp only
      unfold smppRoutePfxAdd
      rw [found]
      dsimp only
      split
      · exact inv
      · rw [Smsc.onAcl_found found]
        exact inv.of_same ⟨rfl, map_adjust (by intro _; rfl), Nat.le_succ _, rfl⟩
  | routeDel id pfx =>
      obtain ⟨acl, -, found, none_⟩ := keepsRoutes
      dsimp only
      unfold smppRoutePfxDel
      rw [found]
      dsimp only
      rw [none_]
      exact inv
  | defaultRoute id =>
      obtain ⟨acl, -, found⟩ := keepsRoutes
      dsimp only
      unfold cfgEsmeDefaultroute Smsc.withAcl
      rw [found]
      dsimp only
      rw [Smsc.onAcl_found found]
      exact inv.of_same ⟨rfl, map_adjust (by intro _; rfl), Nat.le_refl _, rfl⟩
  | noDefaultRoute id =>
      obtain ⟨acl, -, found⟩ := keepsRoutes
      dsimp only
      unfold cfgNoEsmeDefaultroute Smsc.withAcl
      rw [found]
      dsimp only
      rw [Smsc.onAcl_found found]
      exact inv.of_same ⟨rfl, map_adjust (by intro _; rfl), Nat.le_refl _, rfl⟩
  | policy acceptAll => exact inv.of_same ⟨rfl, rfl, Nat.le_refl _, rfl⟩

theorem bindInv_start : BindInv {} :=
  ⟨rfl, nodup_nil, nofun, nodup_nil, nofun, nofun, nofun, nofun, nofun⟩

/-- In every run whose steps meet the conditions, ACLs and ESMEs point at each other as they are bound, and
`smpp_route()` comes only to an ESME that is bound, and has authenticated, as the owner of the route. -/
theorem smscRun_boundRight (inputs : List SmscInput)
    (keeps : StepsMeet smscStep (fun s input => input.KeepsRoutes s ∧ input.KeepsBinds s) {} inputs) :
    BoundRight (inputs.foldl smscStep {}) := by
  obtain ⟨routes, binds⟩ := foldl_invariant (fun s input (inv : RoutesInv s ∧ BindInv s) ok =>
      ⟨smscStep_routesInv s input inv.1 ok.1, smscStep_bindInv inv.2 inv.1 ok.1 ok.2⟩)
    inputs {} ⟨routesInv_start, bindInv_start⟩ keeps
  exact binds.boundRight routes

/-- An ESME binds with a password, is lost while an SMS is under way, comes back once the SMS is through and
binds again; a route leads to it. -/
def esmeComesBack : List SmscInput :=
  [.aclAdd ['a'], .password 1 ['x'], .routeAdd 1 ⟨1, 1, ['4']⟩, .accept, .bind 3 0x34 .transceiver ['a'] ['x'],
    .smsTaken 3, .closed 3, .smsFreed 3, .accept, .bind 4 0x34 .receiver ['a'] ['y'],
    .bind 4 0x34 .receiver ['a'] ['x']]

theorem smscRun_boundRight_esmeComesBack :
    BoundRight (esmeComesBack.foldl smscStep {}) ∧
      smppRoute (esmeComesBack.foldl smscStep {}) ⟨1, 1, ['4', '9']⟩ = .esme 4 :=
  ⟨smscRun_boundRight esmeComesBack (by decide), by decide⟩

/-- An ESME that has an ACL unbinds and binds again with another system id.  Both ACLs point at it, so that it
gets what is routed to the first one; once it has gone, the first one points at freed memory.  With two
connections for one system id, the ACL forgets the newer one when the older one goes. -/
theorem not_boundRight :
    let rebound : List SmscInput :=
      [.aclAdd ['a'], .aclAdd ['b'], .routeAdd 1 ⟨1, 1, ['4']⟩, .accept, .bind 4 0x34 .transceiver ['a'] [],
        .unbind 4, .bind 4 0x34 .transceiver ['b'] []]
    let two : List SmscInput :=
      [.aclAdd ['a'], .routeAdd 1 ⟨1, 1, ['4']⟩, .accept, .accept, .bind 3 0x34 .transceiver ['a'] [],
        .bind 4 0x34 .transceiver ['a'] [], .closed 3]
    ¬ BoundRight (rebound.foldl smscStep {}) ∧
      smppRoute (rebound.foldl smscStep {}) ⟨1, 1, ['4', '9']⟩ = .esme 4 ∧
      smppRoute (smscStep (rebound.foldl smscStep {}) (.closed 4)) ⟨1, 1, ['4', '9']⟩ = .freedEsme ∧
      ¬ BoundRight (two.foldl smscStep {}) := by
  intro rebound two
  refine ⟨fun right => ?_, by decide, by decide, fun right => ?_⟩
  · have wrong : ¬ ∀ acl ∈ (rebound.foldl smscStep {}).acls, ∀ id ∈ acl.esme,
        ∃ e ∈ (rebound.foldl smscStep {}).esmes, e.id = id ∧ e.BoundAs acl.systemId ∧ e.acl = some acl.id := by
      decide
    exact wrong right.pointsAt
  · have wrong : ¬ ∀ acl ∈ (two.foldl smscStep {}).acls, ∀ e ∈ (two.foldl smscStep {}).esmes,
        e.BoundAs acl.systemId → (∀ other ∈ (two.foldl smscStep {}).esmes, other.BoundAs acl.systemId → other = e) →
          acl.esme = some e.id := by
      decide
    exact wrong right.only

end OsmoMsc.Smpp
