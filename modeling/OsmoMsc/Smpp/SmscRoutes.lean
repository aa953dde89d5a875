/-
Module: OsmoMsc.Smpp.SmscRoutes
Purpose: The routes of the SMSC are those of its ACLs, and the default route is one of them, so
  `smpp_route()` never reads a route or an ACL that has been freed.  `smpp_route_pfx_del()` frees a route
  that stays in the SMSC's list, and `smpp_acl_delete()` leaves the default route as it is.
Trusted boundary: none
Main exports: RoutesInOrder, RoutesInv, SmscInput.KeepsRoutes, smscRun_routesInOrder
-/
import Mathlib.Data.List.Perm.Basic
import OsmoMsc.Library.Run
import OsmoMsc.Smpp.Smsc

namespace OsmoMsc.Smpp

open Library List

variable {acl : Acl}

variable {s s' : Smsc} {id : Nat}

/-! ### The property -/

/-- The SMSC's list has the routes of all ACLs, each once, the default route is an ACL, and routing does not
come across anything else. -/
structure RoutesInOrder (s : Smsc) : Prop where
  routes : s.routeList.Perm (s.acls.flatMap (·.routes))
  once : s.routeList.Nodup
  default : ∀ id, s.defRoute = some id → ∃ acl ∈ s.acls, acl.id = id
  live : ∀ dest, smppRoute s dest ≠ .freedAcl

/-- Names are given once, and a route has a pointer to the ACL it belongs to. -/
structure RoutesInv (s : Smsc) : Prop where
  ids : (s.acls.map Acl.id).Nodup
  fresh : ∀ acl ∈ s.acls, acl.id < s.newId
  routes : s.routeList.Perm (s.acls.flatMap (·.routes))
  once : (s.routeList.map Route.id).Nodup
  freshRoutes : ∀ r ∈ s.routeList, r.id < s.newId
  owner : ∀ acl ∈ s.acls, ∀ r ∈ acl.routes, r.acl = acl.id
  default : ∀ id, s.defRoute = some id → ∃ acl ∈ s.acls, acl.id = id

/-! ### What routing reads -/

theorem Smsc.findAcl_isSome (mem : ∃ acl ∈ s.acls, acl.id = id) : ∃ acl, s.findAcl id = some acl := by
  obtain ⟨acl, mem, rfl⟩ := mem
  cases found : s.findAcl acl.id with
  | some acl' => exact ⟨acl', rfl⟩
  | none => exact absurd (find?_eq_none.mp found acl mem) (by simp)

theorem routeByAcl_live (mem : ∃ acl ∈ s.acls, acl.id = id) : routeByAcl s id ≠ .freedAcl := by
  obtain ⟨acl, found⟩ := Smsc.findAcl_isSome mem
  unfold routeByAcl
  rw [found]
  dsimp only
  split
  · exact nofun
  split
  · exact nofun
  split <;> exact nofun

theorem searchRoute_live {routes : List Route} {dest : SmppAddr}
    (live : ∀ r ∈ routes, ∃ acl ∈ s.acls, r ∈ acl.routes ∧ r.acl = acl.id) :
    ∃ found, searchRoute s dest routes = some found ∧
      ∀ id, found = some id → ∃ r ∈ routes, r.hits dest = true ∧ r.acl = id := by
  induction routes with
  | nil => exact ⟨none, rfl, nofun⟩
  | cons r rest ih =>
      obtain ⟨acl, mem, listed, -⟩ := live r mem_cons_self
      have lives : s.routeLives r = true :=
        any_eq_true.mpr ⟨acl, mem, by simpa using listed⟩
      unfold searchRoute
      rw [lives]
      by_cases hits : r.hits dest = true
      · refine ⟨some r.acl, by simp [hits], fun id is => ⟨r, mem_cons_self, hits, Option.some.inj is⟩⟩
      · obtain ⟨found, is, from_⟩ := ih fun r' mem' => live r' (mem_cons_of_mem r mem')
        refine ⟨found, by simpa [hits] using is, fun id same => ?_⟩
        obtain ⟨r', mem', hits', owner⟩ := from_ id same
        exact ⟨r', mem_cons_of_mem r mem', hits', owner⟩

theorem RoutesInv.listed (inv : RoutesInv s) (r : Route) (mem : r ∈ s.routeList) :
    ∃ acl ∈ s.acls, r ∈ acl.routes ∧ r.acl = acl.id := by
  obtain ⟨acl, mem', listed⟩ := mem_flatMap.mp (inv.routes.mem_iff.mp mem)
  exact ⟨acl, mem', listed, inv.owner acl mem' r listed⟩

/-- The ACL that `smpp_route()` comes to has not been freed. -/
theorem RoutesInv.smppRoute_eq (inv : RoutesInv s) (dest : SmppAddr) :
    smppRoute s dest = .numUnassigned ∨ ∃ acl ∈ s.acls, smppRoute s dest = routeByAcl s acl.id ∧
      ((∃ r ∈ acl.routes, r.hits dest = true) ∨ s.defRoute = some acl.id) := by
  obtain ⟨found, is, matched⟩ := searchRoute_live inv.listed
  unfold smppRoute
  rw [is]
  cases found with
  | some id =>
      obtain ⟨r, mem, hits, rfl⟩ := matched _ rfl
      obtain ⟨acl, mem', listed, owner⟩ := inv.listed r mem
      exact .inr ⟨acl, mem', owner ▸ rfl, .inl ⟨r, listed, hits⟩⟩
  | none =>
      cases default : s.defRoute with
      | none => exact .inl rfl
      | some id =>
          obtain ⟨acl, mem, rfl⟩ := inv.default id default
          exact .inr ⟨acl, mem, rfl, .inr rfl⟩

theorem RoutesInv.inOrder (inv : RoutesInv s) : RoutesInOrder s where
  routes := inv.routes
  once := inv.once.of_map Route.id
  default := inv.default
  live dest := by
    rcases inv.smppRoute_eq dest with unassigned | ⟨acl, mem, is, -⟩
    · rw [unassigned]
      exact nofun
    · rw [is]
      exact routeByAcl_live ⟨acl, mem, rfl⟩

/-! ### What else happens to ACLs -/

/-- The part of an ACL that routes are about. -/
def Acl.routing (acl : Acl) : Nat × List Route := (acl.id, acl.routes)

/-- ACLs have the same routes, and the lists of the SMSC are the same. -/
structure SameRoutes (s s' : Smsc) : Prop where
  acls : s'.acls.map Acl.routing = s.acls.map Acl.routing
  routeList : s'.routeList = s.routeList
  defRoute : s'.defRoute = s.defRoute
  newId : s.newId ≤ s'.newId

theorem SameRoutes.refl (s : Smsc) : SameRoutes s s := ⟨rfl, rfl, rfl, Nat.le_refl _⟩

theorem SameRoutes.trans {s s' s'' : Smsc} (first : SameRoutes s s') (second : SameRoutes s' s'') :
    SameRoutes s s'' :=
  ⟨second.acls.trans first.acls, second.routeList.trans first.routeList,
    second.defRoute.trans first.defRoute, Nat.le_trans first.newId second.newId⟩

theorem mem_of_routing {acls acls' : List Acl} (same : acls'.map Acl.routing = acls.map Acl.routing)
    (mem : acl ∈ acls') : ∃ other ∈ acls, other.id = acl.id ∧ other.routes = acl.routes := by
  obtain ⟨other, mem', is⟩ := mem_of_map_eq same mem
  exact ⟨other, mem', congrArg Prod.fst is, congrArg Prod.snd is⟩

theorem RoutesInv.of_same (inv : RoutesInv s) (same : SameRoutes s s') : RoutesInv s' where
  ids := by
    have ids := congrArg (List.map Prod.fst) same.acls
    simp only [map_map] at ids
    exact ids ▸ inv.ids
  fresh acl mem := by
    obtain ⟨old, mem', id, -⟩ := mem_of_routing same.acls mem
    exact id ▸ Nat.lt_of_lt_of_le (inv.fresh old mem') same.newId
  routes := by
    have routes := congrArg (List.map Prod.snd) same.acls
    rw [map_map, map_map] at routes
    rw [same.routeList, flatMap_def]
    exact (congrArg List.flatten routes).symm ▸ inv.routes
  once := same.routeList ▸ inv.once
  freshRoutes r mem := Nat.lt_of_lt_of_le (inv.freshRoutes r (same.routeList ▸ mem)) same.newId
  owner acl mem r listed := by
    obtain ⟨old, mem', id, routes⟩ := mem_of_routing same.acls mem
    exact id ▸ inv.owner old mem' r (routes ▸ listed)
  default id is := by
    obtain ⟨acl, mem, rfl⟩ := inv.default id (same.defRoute ▸ is)
    obtain ⟨now, mem', id, -⟩ := mem_of_routing same.acls.symm mem
    exact ⟨now, mem', id⟩

theorem crash_sameRoutes : SameRoutes s s.crash := ⟨rfl, rfl, rfl, Nat.le_refl _⟩

section

variable (same : SameRoutes s s')
include same

theorem SameRoutes.update {f : Smsc → Smsc} (then_ : SameRoutes s (f s')) :
    SameRoutes s (s'.update f) := by
  unfold Smsc.update
  split
  · exact same
  · exact then_

theorem SameRoutes.withEsme {k : SmppEsme → Smsc} (then_ : ∀ e, SameRoutes s (k e)) :
    SameRoutes s (s'.withEsme id k) := by
  unfold Smsc.withEsme
  split
  · exact same.trans crash_sameRoutes
  · exact then_ _

theorem SameRoutes.onEsme {f : SmppEsme → SmppEsme} : SameRoutes s (s'.onEsme id f) :=
  same.withEsme fun _ => same.trans ⟨rfl, rfl, rfl, Nat.le_refl _⟩

/-- The other fields of an ACL. -/
theorem SameRoutes.onAcl {f : Acl → Acl} (keeps : ∀ acl, (f acl).routing = acl.routing) :
    SameRoutes s (s'.onAcl id f) := by
  unfold Smsc.onAcl Smsc.withAcl
  split
  · exact same.trans crash_sameRoutes
  · exact same.trans ⟨map_adjust keeps, rfl, rfl, Nat.le_refl _⟩

theorem SameRoutes.forgetEsme (acl : Option Nat) : SameRoutes s (s'.forgetEsme acl) := by
  cases acl with
  | none => exact same
  | some acl => exact same.onAcl fun _ => rfl

theorem SameRoutes.smppEsmePut : SameRoutes s (smppEsmePut s' id) := by
  unfold Smpp.smppEsmePut
  extract_lets s₁
  have taken : SameRoutes s s₁ := same.onEsme
  refine taken.update (taken.withEsme fun e => ?_)
  split
  · refine SameRoutes.forgetEsme (taken.trans ?_) e.acl
    exact ⟨rfl, rfl, rfl, Nat.le_refl _⟩
  · exact taken

end

theorem killEsme_sameRoutes (s : Smsc) (esme : Option Nat) : SameRoutes s (killEsme s esme) := by
  cases esme with
  | none => exact .refl s
  | some id =>
      have closed : SameRoutes s (s.onEsme id fun e => { e with connected := false }) :=
        (SameRoutes.refl s).onEsme
      exact closed.update (f := fun s => smppEsmePut s id) closed.smppEsmePut

theorem closeLink_sameRoutes {id : Nat} : SameRoutes s (closeLink s id) := by
  refine (SameRoutes.refl s).withEsme fun e => ?_
  extract_lets s₁ s₂
  have forgotten : SameRoutes s s₂ := (SameRoutes.refl s).onEsme.forgetEsme e.acl
  exact forgotten.update forgotten.smppEsmePut

theorem processBind_sameRoutes {id ifVersion : Nat} {kind : BindKind} {sysId passwd : List Char} :
    SameRoutes s (processBind s id ifVersion kind sysId passwd).1 := by
  unfold processBind
  split
  · exact crash_sameRoutes
  dsimp only
  split
  · exact .refl s
  split
  · exact .refl s
  split
  · split
    · exact (SameRoutes.refl s).onEsme
    · exact (SameRoutes.refl s).onEsme.onEsme
  · split
    · exact (SameRoutes.refl s).onEsme
    · exact (SameRoutes.refl s).onEsme.onEsme.onAcl fun _ => rfl

theorem ifConnected_sameRoutes {k : Smsc} (same : SameRoutes s k) : SameRoutes s (s.ifConnected id k) := by
  unfold Smsc.ifConnected
  split
  · exact same
  · exact .refl s

/-! ### The operator -/

theorem Smsc.findAcl_mem (found : s.findAcl id = some acl) : acl ∈ s.acls ∧ acl.id = id :=
  mem_of_find found

theorem RoutesInv.aclAlloc (inv : RoutesInv s) (sysId : List Char) : RoutesInv (smppAclAlloc s sysId).1 := by
  unfold smppAclAlloc
  split
  · exact inv
  split
  · exact inv
  refine ⟨nodup_map_concat inv.ids fun acl known => Nat.ne_of_lt (inv.fresh acl known),
    lt_succ_of_concat inv.fresh, ?_, inv.once, fun r mem => ?_, fun acl mem r listed => ?_, fun id is => ?_⟩
  · rw [flatMap_append]
    simpa using inv.routes
  · exact Nat.lt_succ_of_lt (inv.freshRoutes r mem)
  · rcases mem_concat.mp mem with before | rfl
    · exact inv.owner acl before r listed
    · exact absurd listed not_mem_nil
  · obtain ⟨acl, mem, same⟩ := inv.default id is
    exact ⟨acl, mem_append_left _ mem, same⟩

/-- The ACL and its routes are unlinked. -/
theorem RoutesInv.unlinkAcl (inv : RoutesInv s) (mem : acl ∈ s.acls)
    (other : s.defRoute ≠ some acl.id) :
    RoutesInv { s with
      acls := remove Acl.id acl.id s.acls
      routeList := s.routeList.filter fun r => r ∉ acl.routes } := by
  obtain ⟨before, after, split, -, removed⟩ := split_of_mem inv.ids mem fun acl => acl
  have perm := inv.routes
  rw [split, flatMap_append, flatMap_cons] at perm
  have nodup : (before.flatMap (·.routes) ++ (acl.routes ++ after.flatMap (·.routes))).Nodup :=
    perm.nodup_iff.mp (inv.once.of_map Route.id)
  obtain ⟨-, nodup', apart⟩ := nodup_append.mp nodup
  obtain ⟨-, -, apart'⟩ := nodup_append.mp nodup'
  have stays (r : Route) (rest : r ∈ before.flatMap (·.routes) ∨ r ∈ after.flatMap (·.routes)) :
      r ∉ acl.routes := by
    intro own
    rcases rest with first | last
    · exact apart r first r (mem_append_left _ own) rfl
    · exact apart' r own r last rfl
  refine ⟨nodup_map_remove inv.ids, fun acl' mem' => ?_, ?_, inv.once.sublist (filter_sublist.map _),
    fun r mem' => inv.freshRoutes r (mem_of_mem_filter mem'), fun acl' mem' => ?_, fun id is => ?_⟩
  · exact inv.fresh acl' (mem_remove.mp mem').1
  · refine (perm.filter fun r => r ∉ acl.routes).trans ?_
    rw [removed, flatMap_append, filter_append, filter_append]
    rw [filter_eq_self.mpr fun r mem' => by simpa using stays r (.inl mem'),
      filter_eq_nil_iff.mpr fun r mem' => by simpa using mem',
      filter_eq_self.mpr fun r mem' => by simpa using stays r (.inr mem'), nil_append]
  · exact inv.owner acl' (mem_remove.mp mem').1
  · obtain ⟨acl', mem', rfl⟩ := inv.default id is
    refine ⟨acl', mem_remove.mpr ⟨mem', fun same => other ?_⟩, rfl⟩
    rw [← same]
    exact is

theorem RoutesInv.aclDelete (inv : RoutesInv s) (mem : acl ∈ s.acls)
    (other : s.defRoute ≠ some acl.id) : RoutesInv (smppAclDelete s acl.id) := by
  have found : s.findAcl acl.id = some acl := find_of_mem inv.ids mem
  unfold smppAclDelete Smsc.withAcl
  rw [found]
  dsimp only
  have killed := killEsme_sameRoutes s acl.esme
  generalize killEsme s acl.esme = s' at killed
  have inv' := inv.of_same killed
  unfold Smsc.update
  split
  · exact inv'
  · obtain ⟨now, mem', id, routes⟩ := mem_of_routing killed.acls.symm mem
    rw [← id, ← routes]
    exact inv'.unlinkAcl mem' (by rw [killed.defRoute, id]; exact other)

/-- What `onAcl` makes of an ACL that exists. -/
theorem Smsc.onAcl_found (found : s.findAcl id = some acl) (f : Acl → Acl) :
    s.onAcl id f = { s with acls := adjust Acl.id id f s.acls } := by
  unfold Smsc.onAcl Smsc.withAcl
  rw [found]

section

variable (inv : RoutesInv s)
include inv

theorem RoutesInv.routeAdd (found : s.findAcl id = some acl) (pfx : SmppAddr) :
    RoutesInv (smppRoutePfxAdd s id pfx).1 := by
  obtain ⟨mem, rfl⟩ := Smsc.findAcl_mem found
  unfold smppRoutePfxAdd
  rw [found]
  dsimp only
  split
  · exact inv
  rw [Smsc.onAcl_found found]
  generalize link : (fun other : Acl => { other with
    routes := other.routes ++ [({ id := s.newId, acl := acl.id, pfx := pfx } : Route)] }) = f
  have keepsId (other : Acl) : (f other).id = other.id := by subst link; rfl
  have links (other : Acl) : (f other).routes =
      other.routes ++ [({ id := s.newId, acl := acl.id, pfx := pfx } : Route)] := by subst link; rfl
  have ids : (adjust Acl.id acl.id f s.acls).map Acl.id = s.acls.map Acl.id := map_adjust keepsId
  refine ⟨by rw [ids]; exact inv.ids, fun acl' mem' => ?_, ?_,
    nodup_map_concat inv.once fun r known => Nat.ne_of_lt (inv.freshRoutes r known),
    lt_succ_of_concat inv.freshRoutes, fun acl' mem' r listed => ?_, fun id is => ?_⟩
  · rcases mem_adjust.mp mem' with ⟨old, known, -, rfl⟩ | ⟨known, -⟩
    · exact keepsId old ▸ Nat.lt_succ_of_lt (inv.fresh old known)
    · exact Nat.lt_succ_of_lt (inv.fresh acl' known)
  · obtain ⟨before, after, split, adjusted, -⟩ := split_of_mem inv.ids mem f
    have perm := inv.routes
    rw [split, flatMap_append, flatMap_cons] at perm
    rw [adjusted, flatMap_append, flatMap_cons, links]
    refine (perm.append_right _).trans ?_
    simp only [append_assoc]
    exact (Perm.refl _).append ((Perm.refl _).append perm_append_comm)
  · rcases mem_adjust.mp mem' with ⟨old, known, same, rfl⟩ | ⟨known, -⟩
    · rw [links] at listed
      rw [keepsId]
      rcases mem_append.mp listed with before' | now
      · exact inv.owner old known r before'
      · rw [mem_singleton.mp now]
        exact same.symm
    · exact inv.owner acl' known r listed
  · obtain ⟨acl', mem', rfl⟩ := inv.default id is
    exact mem_of_map_eq ids.symm mem'

/-- The flag of an ACL is set, and the default route becomes that ACL or none, or stays. -/
theorem RoutesInv.flagDefault (found : s.findAcl id = some acl) {flag : Bool} {route : Option Nat}
    (known : ∀ id', route = some id' → id' = id ∨ s.defRoute = some id') :
    RoutesInv { s.onAcl id fun acl => { acl with defaultRoute := flag } with defRoute := route } := by
  have same : SameRoutes s (s.onAcl id fun acl => { acl with defaultRoute := flag }) :=
    (SameRoutes.refl s).onAcl fun _ => rfl
  refine { inv.of_same same with default := fun id' is => ?_ }
  rcases known id' is with rfl | before
  · obtain ⟨mem, rfl⟩ := Smsc.findAcl_mem found
    obtain ⟨now, mem', id, -⟩ := mem_of_routing same.acls.symm mem
    exact ⟨now, mem', id⟩
  · exact (inv.of_same same).default id' (same.defRoute.trans before)

theorem RoutesInv.defaultroute (found : s.findAcl id = some acl) :
    RoutesInv (cfgEsmeDefaultroute s id) := by
  unfold cfgEsmeDefaultroute Smsc.withAcl
  rw [found]
  refine inv.flagDefault found fun id' is => ?_
  split at is
  · exact .inl (Option.some.inj is).symm
  · exact .inr is

theorem RoutesInv.noDefaultroute (found : s.findAcl id = some acl) :
    RoutesInv (cfgNoEsmeDefaultroute s id) := by
  unfold cfgNoEsmeDefaultroute Smsc.withAcl
  rw [found]
  refine inv.flagDefault found fun id' is => ?_
  split at is
  · cases is
  · exact .inr is

theorem RoutesInv.routeDel {pfx : SmppAddr} (found : s.findAcl id = some acl)
    (none_ : acl.routes.find? (·.pfx = pfx) = none) : RoutesInv (smppRoutePfxDel s id pfx).1 := by
  unfold smppRoutePfxDel
  rw [found]
  dsimp only
  rw [none_]
  exact inv

end

/-! ### Runs -/

/-- What the routes rest on: a command is given in the node of an ACL that exists, no prefix route is
removed, and neither is the ACL of the default route. -/
def SmscInput.KeepsRoutes (s : Smsc) : SmscInput → Prop
  | .aclDelete sysId => ∀ acl ∈ smppAclBySystemId s sysId, s.defRoute ≠ some acl.id
  | .routeDel id pfx => ∃ acl ∈ s.acls, s.findAcl id = some acl ∧ acl.routes.find? (·.pfx = pfx) = none
  | .routeAdd id _ | .defaultRoute id | .noDefaultRoute id => ∃ acl ∈ s.acls, s.findAcl id = some acl
  | _ => True

instance (s : Smsc) (input : SmscInput) : Decidable (input.KeepsRoutes s) := by
  cases input <;> unfold SmscInput.KeepsRoutes <;> infer_instance

/-- One input keeps the routes. -/
theorem smscStep_routesInv (s : Smsc) (input : SmscInput) (inv : RoutesInv s) (keeps : input.KeepsRoutes s) :
    RoutesInv (smscStep s input) := by
  unfold smscStep Smsc.update
  split
  · exact inv
  cases input with
  | accept => exact inv.of_same ⟨rfl, rfl, rfl, Nat.le_succ _⟩
  | bind esme ifVersion kind sysId passwd =>
      exact inv.of_same (ifConnected_sameRoutes processBind_sameRoutes)
  | unbind esme => exact inv.of_same (ifConnected_sameRoutes (SameRoutes.refl s).onEsme)
  | closed esme => exact inv.of_same (ifConnected_sameRoutes closeLink_sameRoutes)
  | smsTaken esme => exact inv.of_same (ifConnected_sameRoutes (SameRoutes.refl s).onEsme)
  | smsFreed esme =>
      dsimp only
      split
      · exact inv.of_same (SameRoutes.refl s).smppEsmePut
      · exact inv
  | aclAdd sysId => exact inv.aclAlloc sysId
  | aclDelete sysId =>
      dsimp only
      split
      · exact inv
      · rename_i acl found
        exact inv.aclDelete (mem_of_find?_eq_some found) (keeps acl found)
  | password acl passwd =>
      dsimp only
      split
      · exact inv
      · exact inv.of_same ((SameRoutes.refl s).onAcl fun _ => rfl)
  | routeAdd acl pfx =>
      obtain ⟨acl, -, found⟩ := keeps
      exact inv.routeAdd found pfx
  | routeDel acl pfx =>
      obtain ⟨acl, -, found, none_⟩ := keeps
      exact inv.routeDel found none_
  | defaultRoute acl =>
      obtain ⟨acl, -, found⟩ := keeps
      exact inv.defaultroute found
  | noDefaultRoute acl =>
      obtain ⟨acl, -, found⟩ := keeps
      exact inv.noDefaultroute found
  | policy acceptAll => exact inv.of_same ⟨rfl, rfl, rfl, Nat.le_refl _⟩

theorem routesInv_start : RoutesInv {} :=
  ⟨nodup_nil, nofun, .refl _, nodup_nil, nofun, nofun, nofun⟩

/-- In every run in which no route is removed on its own and no ACL while it is the default route, the SMSC's
list has the routes of its ACLs, the default route is an ACL, and routing reads nothing that has been freed. -/
theorem smscRun_routesInOrder (inputs : List SmscInput)
    (keeps : StepsMeet smscStep (fun s input => input.KeepsRoutes s) {} inputs) :
    RoutesInOrder (inputs.foldl smscStep {}) :=
  (foldl_invariant smscStep_routesInv inputs {} routesInv_start keeps).inOrder

/-- `no esme NAME` for an ACL with a route, while another one is the default route. -/
def aclComesAndGoes : List SmscInput :=
  [.aclAdd ['a'], .routeAdd 1 ⟨1, 1, ['4', '9']⟩, .aclAdd ['b'], .defaultRoute 3, .routeAdd 3 ⟨1, 1, ['3']⟩,
    .aclDelete ['a']]

theorem smscRun_routesInOrder_aclComesAndGoes :
    RoutesInOrder (aclComesAndGoes.foldl smscStep {}) ∧
      (aclComesAndGoes.foldl smscStep {}).routeList.length = 1 ∧
      (aclComesAndGoes.foldl smscStep {}).defRoute = some 3 :=
  ⟨smscRun_routesInOrder aclComesAndGoes (by decide), by decide, by decide⟩

/-- `route prefix` and `no route prefix`: the route has been freed and is still in the SMSC's list.  `no esme`
for the default route: the ACL has been freed and is still the default route.  Either way routing reads it. -/
theorem not_routesInOrder :
    let removed := [.aclAdd ['a'], .routeAdd 1 ⟨1, 1, ['4', '9']⟩, .routeDel 1 ⟨1, 1, ['4', '9']⟩]
    let dangling := [.aclAdd ['a'], .defaultRoute 1, .aclDelete ['a']]
    (¬ RoutesInOrder (List.foldl smscStep {} removed) ∧
      smppRoute (List.foldl smscStep {} removed) ⟨1, 1, ['4', '9', '1']⟩ = .freedAcl) ∧
    (¬ RoutesInOrder (List.foldl smscStep {} dangling) ∧
      smppRoute (List.foldl smscStep {} dangling) ⟨1, 1, ['4', '9', '1']⟩ = .freedAcl) := by
  intro removed dangling
  have freed : smppRoute (List.foldl smscStep {} removed) ⟨1, 1, ['4', '9', '1']⟩ = .freedAcl := by decide
  have freed' : smppRoute (List.foldl smscStep {} dangling) ⟨1, 1, ['4', '9', '1']⟩ = .freedAcl := by decide
  exact ⟨⟨fun inOrder => inOrder.live _ freed, freed⟩, ⟨fun inOrder => inOrder.live _ freed', freed'⟩⟩

end OsmoMsc.Smpp
