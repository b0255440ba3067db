/-
HrServer.Server.Bind — `TcpServer::bind` of `tcp_server.cc`.

A call of `bind` attempts one address after the other; an attempt fails
where the socket does not bind or does not listen. What the system answers
is a parameter (`Sockets`), so every pattern of failures is covered.
`AllOrNothing` says what a call owes: the sockets of all addresses, or the
list of those that failed and the server as it was.

The roll-back clears `m_socks` as a whole, so it also drops the sockets of
earlier calls (`bind_allOrNothing_iff`). A second result is about the loop
of `test_tcp_server.cc`, which calls `bind` again with the same `fails`
until it succeeds: after one failure it never does (`retries_fail`).
-/
import Mathlib.Data.List.Basic

namespace HrServer.Server

/-! ## The code -/

/-- The operations of `Socket` and `SSLSocket` on the state `ω` of the system. -/
structure Sockets (ω Sock Addr : Type) where
  createTCP : Bool → Addr → StateM ω Sock
  bind : Sock → Addr → StateM ω Bool
  listen : Sock → StateM ω Bool

/-- The members of `TcpServer` that `bind` sets. -/
structure TcpServer (Sock : Type) where
  mSocks : List Sock
  mSsl : Bool

variable {ω Sock Addr : Type} (sys : Sockets ω Sock Addr)

/-- What the loop of `bind` changes. -/
structure Binding (Sock Addr : Type) where
  mSocks : List Sock
  fails : List Addr

/-- One turn of the loop. -/
def bindTurn (ssl : Bool) (s : Binding Sock Addr) (addr : Addr) : StateM ω (Binding Sock Addr) := do
  let sock ← sys.createTCP ssl addr
  if !(← sys.bind sock addr) then
    return { s with fails := s.fails ++ [addr] }
  if !(← sys.listen sock) then
    return { s with fails := s.fails ++ [addr] }
  return { s with mSocks := s.mSocks ++ [sock] }

/-- What a call of `bind` leaves: its result, the server and `fails`. -/
structure Bound (Sock Addr : Type) where
  returned : Bool
  server : TcpServer Sock
  fails : List Addr

/-- `TcpServer::bind(addrs, fails, ssl)`. -/
def TcpServer.bind (server : TcpServer Sock) (addrs fails : List Addr) (ssl : Bool) :
    StateM ω (Bound Sock Addr) := do
  let s ← addrs.foldlM (bindTurn sys ssl) { mSocks := server.mSocks, fails := fails }
  if !s.fails.isEmpty then
    return { returned := false, server := { mSocks := [], mSsl := ssl }, fails := s.fails }
  return { returned := true, server := { mSocks := s.mSocks, mSsl := ssl }, fails := s.fails }

/-- `TcpServer::bind(addr, ssl)`. -/
def TcpServer.bindOne (server : TcpServer Sock) (addr : Addr) (ssl : Bool) :
    StateM ω (Bound Sock Addr) :=
  server.bind sys [addr] [] ssl

/-! ## What a call owes -/

/-- The socket for an address, where binding and listening succeed. -/
def attempt (ssl : Bool) (addr : Addr) : StateM ω (Option Sock) := do
  let sock ← sys.createTCP ssl addr
  if !(← sys.bind sock addr) then return none
  if !(← sys.listen sock) then return none
  return some sock

/-- The attempts at a list of addresses, in order. -/
def attempts (ssl : Bool) : List Addr → StateM ω (List (Addr × Option Sock))
  | [] => return []
  | addr :: addrs => do
    let sock ← attempt sys ssl addr
    let rest ← attempts ssl addrs
    return (addr, sock) :: rest

/-- The addresses whose attempts failed. -/
def refused (tried : List (Addr × Option Sock)) : List Addr :=
  tried.filterMap fun t => if t.2.isNone then some t.1 else none

/-- What a call owes that tries `addrs`, with the sockets `before` from earlier calls. -/
structure AllOrNothing (before : List Sock) (addrs : List Addr)
    (tried : List (Addr × Option Sock)) (r : Bound Sock Addr) : Prop where
  order : tried.map Prod.fst = addrs
  returned : r.returned = false ↔ ∃ t ∈ tried, t.2 = none
  nothing : r.returned = false → r.fails = refused tried ∧ r.server.mSocks = before
  all : r.returned = true →
    ∃ socks, tried.map Prod.snd = socks.map some ∧ r.server.mSocks = before ++ socks

/-! ## The loop -/

section loop

variable {σ α β : Type}

theorem bind_apply (x : StateM σ α) (f : α → StateM σ β) (w : σ) :
    (x >>= f) w = f (x w).1 (x w).2 := rfl

theorem pure_apply (a : α) (w : σ) : (pure a : StateM σ α) w = (a, w) := rfl

theorem ite_apply (c : Prop) [Decidable c] (x y : StateM σ α) (w : σ) :
    (if c then x else y) w = if c then x w else y w := by
  split <;> rfl

end loop

@[simp] theorem refused_nil : refused ([] : List (Addr × Option Sock)) = [] := rfl

@[simp] theorem refused_cons_none (addr : Addr) (tried : List (Addr × Option Sock)) :
    refused ((addr, none) :: tried) = addr :: refused tried := rfl

@[simp] theorem refused_cons_some (addr : Addr) (sock : Sock)
    (tried : List (Addr × Option Sock)) :
    refused ((addr, some sock) :: tried) = refused tried := rfl

theorem refused_eq_nil {tried : List (Addr × Option Sock)} :
    refused tried = [] ↔ ¬ ∃ t ∈ tried, t.2 = none := by
  rw [refused, List.filterMap_eq_nil_iff, not_exists]
  simp

/-- Without failures there is a socket for every address. -/
theorem map_snd_of_refused_nil {tried : List (Addr × Option Sock)} (h : refused tried = []) :
    tried.map Prod.snd = (tried.filterMap Prod.snd).map some := by
  induction tried with
  | nil => rfl
  | cons t tried ih =>
    obtain ⟨addr, _ | sock⟩ := t
    · exact absurd h (List.cons_ne_nil _ _)
    · simp [ih h]

theorem attempts_addrs (ssl : Bool) (addrs : List Addr) (w : ω) :
    ((attempts sys ssl addrs w).1).map Prod.fst = addrs := by
  induction addrs generalizing w with
  | nil => rfl
  | cons addr addrs ih =>
    exact congrArg (addr :: ·) (ih (attempt sys ssl addr w).2)

/-- A turn appends to one of the two lists. -/
theorem bindTurn_eq (ssl : Bool) (s : Binding Sock Addr) (addr : Addr) (w : ω) :
    bindTurn sys ssl s addr w
      = ({ mSocks := s.mSocks ++ (attempt sys ssl addr w).1.toList
           fails := s.fails ++ refused [(addr, (attempt sys ssl addr w).1)] },
          (attempt sys ssl addr w).2) := by
  simp only [bindTurn, attempt, bind_apply, ite_apply, pure_apply]
  split
  · simp [refused]
  · split <;> simp [refused]

theorem foldlM_bindTurn (ssl : Bool) (addrs : List Addr) (s : Binding Sock Addr) (w : ω) :
    addrs.foldlM (bindTurn sys ssl) s w
      = ({ mSocks := s.mSocks ++ (attempts sys ssl addrs w).1.filterMap Prod.snd
           fails := s.fails ++ refused (attempts sys ssl addrs w).1 },
          (attempts sys ssl addrs w).2) := by
  induction addrs generalizing s w with
  | nil => simp [attempts, pure_apply]
  | cons addr addrs ih =>
    rw [List.foldlM_cons, bind_apply, bindTurn_eq, ih]
    simp only [attempts, bind_apply, pure_apply]
    rcases attempt sys ssl addr w with ⟨_ | sock, w'⟩ <;> simp

/-- A call of `bind`, by its attempts. -/
theorem bind_eq (server : TcpServer Sock) (addrs fails : List Addr) (ssl : Bool) (w : ω) :
    (server.bind sys addrs fails ssl w).1
      = if fails ++ refused (attempts sys ssl addrs w).1 = [] then
          { returned := true, fails := []
            server := { mSocks := server.mSocks
                          ++ (attempts sys ssl addrs w).1.filterMap Prod.snd
                        mSsl := ssl } }
        else
          { returned := false, fails := fails ++ refused (attempts sys ssl addrs w).1
            server := { mSocks := [], mSsl := ssl } } := by
  simp only [TcpServer.bind, bind_apply, foldlM_bindTurn, ite_apply, pure_apply]
  cases h : fails ++ refused (attempts sys ssl addrs w).1 <;> simp

/-! ## The sockets of earlier calls -/

/-- A call is all or nothing exactly when no address fails, or there is nothing to lose. -/
theorem bind_allOrNothing_iff (server : TcpServer Sock) (addrs : List Addr) (ssl : Bool) (w : ω) :
    AllOrNothing server.mSocks addrs (attempts sys ssl addrs w).1
        (server.bind sys addrs [] ssl w).1
      ↔ (¬ ∃ t ∈ (attempts sys ssl addrs w).1, t.2 = none) ∨ server.mSocks = [] := by
  have horder := attempts_addrs sys ssl addrs w
  rw [bind_eq, List.nil_append]
  generalize (attempts sys ssl addrs w).1 = tried at horder ⊢
  by_cases hall : refused tried = []
  · have hnone := refused_eq_nil.mp hall
    rw [if_pos hall]
    exact iff_of_true
      ⟨horder, iff_of_false nofun hnone, nofun, fun _ => ⟨_, map_snd_of_refused_nil hall, rfl⟩⟩
      (.inl hnone)
  · have hsome := refused_eq_nil.not_left.mp hall
    rw [if_neg hall, or_iff_right (not_not_intro hsome)]
    constructor
    · exact fun h => (h.nothing rfl).2.symm
    · exact fun hempty =>
        ⟨horder, iff_of_true rfl hsome, fun _ => ⟨rfl, hempty.symm⟩, nofun⟩

/-- A system where only port 80 is refused; a socket is the port it is for. -/
def port80Refused : Sockets Unit Nat Nat where
  createTCP := fun _ addr => return addr
  bind := fun _ addr => return addr != 80
  listen := fun _ => return true

/-- A server that an earlier call has bound to 8020. -/
def bound8020 : TcpServer Nat := { mSocks := [8020], mSsl := false }

/-- A call for 80 fails and leaves the server without a socket. -/
theorem bind_allOrNothing_fails :
    ¬ AllOrNothing bound8020.mSocks [80] (attempts port80Refused false [80] ()).1
      (bound8020.bind port80Refused [80] [] false ()).1 :=
  fun h => absurd (h.nothing rfl).2 (by decide)

/-! ## Calling again -/

/-- A call for one address succeeds with its attempt, so its caller can try again. -/
theorem bindOne_returned (server : TcpServer Sock) (addr : Addr) (ssl : Bool) (w : ω) :
    (server.bindOne sys addr ssl w).1.returned = (attempt sys ssl addr w).1.isSome := by
  have hreturned : (server.bindOne sys addr ssl w).1.returned
      = (refused (attempts sys ssl [addr] w).1).isEmpty := by
    rw [TcpServer.bindOne, bind_eq]
    split <;> simp_all
  rw [hreturned]
  simp only [attempts, bind_apply, pure_apply]
  cases (attempt sys ssl addr w).1 <;> rfl

/-- The loop of `test_tcp_server.cc`: calls of `bind` with one list `fails`, up to the first
that succeeds. -/
def retries (addrs : List Addr) (ssl : Bool) : Nat → Bound Sock Addr → StateM ω (Bound Sock Addr)
  | 0, b => return b
  | n + 1, b =>
    if b.returned then return b
    else do retries addrs ssl n (← b.server.bind sys addrs b.fails ssl)

/-- A call with entries in `fails` does not succeed, whatever the system does. -/
theorem bind_stale (server : TcpServer Sock) (addrs : List Addr) {fails : List Addr} (ssl : Bool)
    (w : ω) (h : fails ≠ []) :
    (server.bind sys addrs fails ssl w).1.returned = false
      ∧ (server.bind sys addrs fails ssl w).1.fails ≠ [] := by
  have hne : fails ++ refused (attempts sys ssl addrs w).1 ≠ [] := by simp [h]
  rw [bind_eq, if_neg hne]
  exact ⟨rfl, hne⟩

/-- After one failure the loop never ends. -/
theorem retries_fail (addrs : List Addr) (ssl : Bool) (n : Nat) (b : Bound Sock Addr) (w : ω)
    (hret : b.returned = false) (hfails : b.fails ≠ []) :
    (retries sys addrs ssl n b w).1.returned = false := by
  induction n generalizing b w with
  | zero => exact hret
  | succ n ih =>
    obtain ⟨hret', hfails'⟩ := bind_stale sys b.server addrs ssl w hfails
    rw [retries, hret]
    exact ih _ _ hret' hfails'

end HrServer.Server
