/-
Module: OsmoMsc.Smpp.Smsc
Purpose: The SMSC side of SMPP (smpp_smsc.c, smpp_vty.c): the ESMEs that are connected, the ACLs that the
  operator configures, their routes, and the default route.  ACLs and ESMEs point at each other, routes are
  linked into the list of their ACL and into the one of the SMSC; pointers are names here, and what they
  name may have been freed.
Trusted boundary: reading a PDU and composing the answers to it (`OsmoMsc.Smpp.EsmeLink`); memory is
  always available; a socket is reported as closed once
Main exports: Route, Acl, SmppEsme, Smsc, processBind, smppEsmePut, smppAclAlloc, smppAclDelete,
  smppRoutePfxAdd, smppRoute, SmscInput, smscStep
-/
import OsmoMsc.Library.Registry

namespace OsmoMsc.Smpp

open Library (adjust remove)

/-! ### ACLs, routes and ESMEs -/

/-- `struct osmo_smpp_addr`. -/
structure SmppAddr where
  ton : Nat
  npi : Nat
  addr : List Char
deriving DecidableEq, Repr

/-- `struct osmo_smpp_route`, of type `SMPP_ROUTE_PREFIX`. -/
structure Route where
  /-- Tells one route from another. -/
  id : Nat
  acl : Nat
  pfx : SmppAddr
deriving DecidableEq, Repr

/-- `struct osmo_smpp_acl`. -/
structure Acl where
  id : Nat
  systemId : List Char
  passwd : List Char := []
  defaultRoute : Bool := false
  /-- `route_list`. -/
  routes : List Route := []
  esme : Option Nat := none
deriving DecidableEq, Repr

/-- `bind_flags`. -/
structure BindFlags where
  rx : Bool := false
  tx : Bool := false
deriving DecidableEq, Repr

def BindFlags.isSet (flags : BindFlags) : Bool := flags.rx || flags.tx

/-- `BIND_RECEIVER`, `BIND_TRANSMITTER` and `BIND_TRANSCEIVER`. -/
inductive BindKind where
  | receiver
  | transmitter
  | transceiver
deriving DecidableEq, Repr

def BindKind.flags : BindKind → BindFlags
  | .receiver => { rx := true }
  | .transmitter => { tx := true }
  | .transceiver => { rx := true, tx := true }

/-- `struct smpp_esme`, and of `struct esme` the system id and whether the socket is open. -/
structure SmppEsme where
  id : Nat
  acl : Option Nat := none
  use : Nat
  smppVersion : Nat := 0
  bindFlags : BindFlags := {}
  systemId : List Char := []
  /-- `wqueue.bfd.fd` is not -1. -/
  connected : Bool := true
  /-- The password of the bind was the one of the ACL, or the ACL had none; not in the source. -/
  authenticated : Bool := false
deriving DecidableEq, Repr

/-- `struct smsc`. -/
structure Smsc where
  esmes : List SmppEsme := []
  acls : List Acl := []
  /-- `route_list`. -/
  routeList : List Route := []
  defRoute : Option Nat := none
  acceptAll : Bool := false
  /-- The names that have been given so far. -/
  newId : Nat := 1
  /-- Freed memory was used. -/
  crashed : Bool := false
deriving DecidableEq, Repr

namespace Smsc

/-- After a crash nothing happens any more. -/
def update (s : Smsc) (f : Smsc → Smsc) : Smsc := if s.crashed then s else f s

def crash (s : Smsc) : Smsc := { s with crashed := true }

def findAcl (s : Smsc) (id : Nat) : Option Acl := s.acls.find? fun acl => acl.id = id

def findEsme (s : Smsc) (id : Nat) : Option SmppEsme := s.esmes.find? fun e => e.id = id

/-- Use an ACL through a pointer. -/
def withAcl (s : Smsc) (id : Nat) (k : Acl → Smsc) : Smsc :=
  match s.findAcl id with
  | none => s.crash
  | some acl => k acl

/-- Use an ESME through a pointer. -/
def withEsme (s : Smsc) (id : Nat) (k : SmppEsme → Smsc) : Smsc :=
  match s.findEsme id with
  | none => s.crash
  | some e => k e

def onAcl (s : Smsc) (id : Nat) (f : Acl → Acl) : Smsc :=
  s.withAcl id fun _ => { s with acls := adjust Acl.id id f s.acls }

def onEsme (s : Smsc) (id : Nat) (f : SmppEsme → SmppEsme) : Smsc :=
  s.withEsme id fun _ => { s with esmes := adjust SmppEsme.id id f s.esmes }

/-- `if (esme->acl) esme->acl->esme = NULL`. -/
def forgetEsme (s : Smsc) : Option Nat → Smsc
  | none => s
  | some acl => s.onAcl acl fun acl => { acl with esme := none }

end Smsc

/-! ### ESMEs -/

/-- `SMPP_VERSION`. -/
def smppVersion : Nat := 0x34

/-- `SMPP_SYS_ID_LEN`. -/
def smppSysIdLen : Nat := 15

variable (s : Smsc) (id : Nat)

/-- `esme_destroy()`, without the commands that wait for an answer. -/
def esmeDestroy (e : SmppEsme) : Smsc :=
  let s := { s with esmes := remove SmppEsme.id e.id s.esmes }
  s.forgetEsme e.acl

/-- `smpp_esme_get()`. -/
def smppEsmeGet : Smsc := s.onEsme id fun e => { e with use := e.use + 1 }

/-- `smpp_esme_put()`. -/
def smppEsmePut : Smsc :=
  let s := s.onEsme id fun e => { e with use := e.use - 1 }
  s.update fun s => s.withEsme id fun e => if e.use = 0 then esmeDestroy s e else s

/-- `link_accept_cb()`. -/
def linkAcceptCb : Smsc :=
  { s with esmes := s.esmes ++ [{ id := s.newId, use := 1 }], newId := s.newId + 1 }

/-- The end of `esme_link_read_cb()` for a socket that is dead, and `esme_link_write_cb()` for one that takes
nothing. -/
def closeLink : Smsc :=
  s.withEsme id fun e =>
    let s := s.onEsme id fun e => { e with connected := false }
    let s := s.forgetEsme e.acl
    s.update fun s => smppEsmePut s id

/-- `smpp_acl_by_system_id()`. -/
def smppAclBySystemId (sysId : List Char) : Option Acl :=
  s.acls.find? fun acl => acl.systemId = sysId

/-- The status of the answer to a bind. -/
inductive BindStatus where
  | rok
  | rsyserr
  | ralybnd
  | rinvsysid
  | rinvpaswd
deriving DecidableEq, Repr

/-- The password is the one of the ACL, or the ACL has none. -/
def Acl.takes (acl : Acl) (passwd : List Char) : Bool := acl.passwd = [] || acl.passwd = passwd

/-- `_process_bind()`. -/
def processBind (id ifVersion : Nat) (kind : BindKind) (sysId passwd : List Char) :
    Smsc × BindStatus :=
  match s.findEsme id with
  | none => (s.crash, .rsyserr)
  | some e =>
    if ifVersion ≠ smppVersion then (s, .rsyserr)
    else if e.bindFlags.isSet then (s, .ralybnd)
    else
      -- snprintf() to system_id[SMPP_SYS_ID_LEN + 1]
      let sysId := sysId.take smppSysIdLen
      let s := s.onEsme id fun e => { e with smppVersion := ifVersion, systemId := sysId }
      match smppAclBySystemId s sysId with
      | none =>
        if !s.acceptAll then (s, .rinvsysid)
        else (s.onEsme id fun e => { e with bindFlags := kind.flags }, .rok)
      | some acl =>
        if !s.acceptAll && !acl.takes passwd then (s, .rinvpaswd)
        else
          let s := s.onEsme id fun e => { e with
            acl := some acl.id, bindFlags := kind.flags, authenticated := acl.takes passwd }
          (s.onAcl acl.id fun acl => { acl with esme := some id }, .rok)

/-- `smpp_handle_unbind()`. -/
def smppHandleUnbind : Smsc :=
  s.onEsme id fun e => { e with bindFlags := {}, authenticated := false }

/-! ### ACLs and routes -/

/-- `smpp_acl_alloc()`, and whether it returns an ACL. -/
def smppAclAlloc (sysId : List Char) : Smsc × Bool :=
  if sysId.length > smppSysIdLen then (s, false)
  else if (smppAclBySystemId s sysId).isSome then (s, false)
  else ({ s with acls := s.acls ++ [{ id := s.newId, systemId := sysId }], newId := s.newId + 1 }, true)

/-- Kill any active ESME of an ACL. -/
def killEsme : Option Nat → Smsc
  | none => s
  | some id => let s := s.onEsme id fun e => { e with connected := false }
    s.update fun s => smppEsmePut s id

/-- `smpp_acl_delete()`. -/
def smppAclDelete : Smsc :=
  s.withAcl id fun acl =>
    -- esme_destroy() sets acl->esme, which is still there
    (killEsme s acl.esme).update fun s =>
      { s with
        acls := remove Acl.id id s.acls
        routeList := s.routeList.filter fun r => r ∉ acl.routes }

/-- `smpp_route_pfx_add()`; false for `-EEXIST`. -/
def smppRoutePfxAdd (pfx : SmppAddr) : Smsc × Bool :=
  match s.findAcl id with
  | none => (s.crash, false)
  | some acl =>
    if acl.routes.any (·.pfx = pfx) then (s, false)
    else
      let r : Route := { id := s.newId, acl := id, pfx := pfx }
      ({ s.onAcl id fun acl => { acl with routes := acl.routes ++ [r] } with
          routeList := s.routeList ++ [r], newId := s.newId + 1 }, true)

/-- `smpp_route_pfx_del()`; false for `-ENODEV`. -/
def smppRoutePfxDel (pfx : SmppAddr) : Smsc × Bool :=
  match s.findAcl id with
  | none => (s.crash, false)
  | some acl =>
    match acl.routes.find? (·.pfx = pfx) with
    | none => (s, false)
    -- global_list is left alone
    | some r => (s.onAcl id fun acl => { acl with routes := acl.routes.filter (· ≠ r) }, true)

/-- `cfg_esme_defaultroute()`. -/
def cfgEsmeDefaultroute : Smsc :=
  s.withAcl id fun _ =>
    { s.onAcl id fun acl => { acl with defaultRoute := true } with
      defRoute := if s.defRoute.isNone then some id else s.defRoute }

/-- `cfg_no_esme_defaultroute()`. -/
def cfgNoEsmeDefaultroute : Smsc :=
  s.withAcl id fun _ =>
    { s.onAcl id fun acl => { acl with defaultRoute := false } with
      defRoute := if s.defRoute = some id then none else s.defRoute }

/-! ### Routing -/

/-- What `smpp_route()` comes to. -/
inductive RouteResult where
  | esme (id : Nat)
  | netOutOfOrder
  | numUnassigned
  /-- A route or an ACL was read that has been freed. -/
  | freedAcl
  /-- An ESME was read that has been freed. -/
  | freedEsme
deriving DecidableEq, Repr

/-- The route has not been freed. -/
def Smsc.routeLives (r : Route) : Bool := s.acls.any fun acl => acl.routes.contains r

def Route.hits (r : Route) (dest : SmppAddr) : Bool :=
  r.pfx.ton = dest.ton && r.pfx.npi = dest.npi && r.pfx.addr.isPrefixOf dest.addr

/-- The search for a specific route; `none` if a freed one is read on the way. -/
def searchRoute (s : Smsc) (dest : SmppAddr) : List Route → Option (Option Nat)
  | [] => some none
  | r :: rest =>
    if !s.routeLives r then none
    else if r.hits dest then some (some r.acl)
    else searchRoute s dest rest

/-- `smpp_route()`, from where the ACL is known. -/
def routeByAcl : RouteResult :=
  match s.findAcl id with
  | none => .freedAcl
  | some acl =>
    match acl.esme with
    | none => .netOutOfOrder
    | some e =>
      match s.findEsme e with
      | none => .freedEsme
      | some esme => if esme.bindFlags.rx then .esme e else .netOutOfOrder

/-- `smpp_route()`. -/
def smppRoute (dest : SmppAddr) : RouteResult :=
  match searchRoute s dest s.routeList with
  | none => .freedAcl
  | some (some acl) => routeByAcl s acl
  | some none =>
    match s.defRoute with
    | none => .numUnassigned
    | some acl => routeByAcl s acl

/-! ### Runs -/

/-- What may happen to the SMSC. -/
inductive SmscInput where
  /-- A new connection. -/
  | accept
  | bind (esme ifVersion : Nat) (kind : BindKind) (sysId passwd : List Char)
  | unbind (esme : Nat)
  /-- The connection is lost or the ESME closes it. -/
  | closed (esme : Nat)
  /-- An SMS from or for the ESME is under way. -/
  | smsTaken (esme : Nat)
  | smsFreed (esme : Nat)
  /-- `esme NAME` and `no esme NAME` on the VTY. -/
  | aclAdd (sysId : List Char)
  | aclDelete (sysId : List Char)
  /-- Commands in the node of an ESME, which holds a pointer to the ACL. -/
  | password (acl : Nat) (passwd : List Char)
  | routeAdd (acl : Nat) (pfx : SmppAddr)
  | routeDel (acl : Nat) (pfx : SmppAddr)
  | defaultRoute (acl : Nat)
  | noDefaultRoute (acl : Nat)
  /-- `policy (accept-all|closed)`. -/
  | policy (acceptAll : Bool)

/-- An input from an ESME that is not connected does not occur. -/
def Smsc.ifConnected (k : Smsc) : Smsc :=
  if (s.findEsme id).any (·.connected) then k else s

/-- The references that are held for SMS. -/
def SmppEsme.smsUses (e : SmppEsme) : Nat := e.use - if e.connected then 1 else 0

def smscStep (input : SmscInput) : Smsc :=
  s.update fun s =>
    match input with
    | .accept => linkAcceptCb s
    | .bind esme ifVersion kind sysId passwd =>
      s.ifConnected esme (processBind s esme ifVersion kind sysId passwd).1
    | .unbind esme => s.ifConnected esme (smppHandleUnbind s esme)
    | .closed esme => s.ifConnected esme (closeLink s esme)
    | .smsTaken esme => s.ifConnected esme (smppEsmeGet s esme)
    | .smsFreed esme => if (s.findEsme esme).any (0 < ·.smsUses) then smppEsmePut s esme else s
    | .aclAdd sysId => (smppAclAlloc s sysId).1
    | .aclDelete sysId =>
      match smppAclBySystemId s sysId with
      | none => s
      | some acl => smppAclDelete s acl.id
    | .password acl passwd =>
        if passwd.length > 8 then s else s.onAcl acl fun acl => { acl with passwd := passwd }
    | .routeAdd acl pfx => (smppRoutePfxAdd s acl pfx).1
    | .routeDel acl pfx => (smppRoutePfxDel s acl pfx).1
    | .defaultRoute acl => cfgEsmeDefaultroute s acl
    | .noDefaultRoute acl => cfgNoEsmeDefaultroute s acl
    | .policy acceptAll => { s with acceptAll := acceptAll }

end OsmoMsc.Smpp
