import Nxpod.Library.Map
import Nxpod.Library.Transition
import Nxpod.Theia.ProcNet

/-!
# Served Ports

The server of the IDE looks at the listening ports again and again and tells its clients what
changed. A client that receives all events knows the ports of the last one.

Two lists of ports are compared by their numbers. So a port that listens on in another way than
before is no change, and when the clients are told because of another port, it is neither among the
opened ports nor among the closed ones. And a port that is found twice is told twice.

## Main definitions

* `ServedPortsChangeEvent`: What the clients are told.
* `Server`, `checkPorts`: The server.
* `Action`: What happens.
* `Server.known`: What a client knows that receives all events.
* `UpToDate`: What is asked of a check.
* `Steady`: Where a check does that.
* `Synced`: What holds between the checks of a run in which all of them are up to date.

## Theorems

* `mem_openPorts`, `nodup_numbers_iff`: What is found, and when no port is found twice.
* `upToDate_iff_of_no_difference`, `upToDate_iff_of_difference`: A check by what it found.
* `upToDate_checkPorts_iff`: One check.
* `upToDate_iff`: Every run.
-/

namespace Nxpod

namespace Theia

open Transition

/-! ## The server -/

/-- What the clients are told. -/
structure ServedPortsChangeEvent where
  ports : List ServedPort
  didOpen : List ServedPort
  didClose : List ServedPort

/-- The comparison `==`, where what is not a number is not equal to itself. -/
def sameNumber : Option Int → Option Int → Bool
  | some n, some m => n == m
  | _, _ => false

/-- The process itself is actually local, but it is forwarded, thus making it global. -/
def correctPort (p : ServedPort) : ServedPort :=
  if p.served = .locally ∧ sameNumber p.internalPort p.portNumber = false then
    { p with served := .globally }
  else p

/-- The correction of all ports. -/
def correctLocalGlobal (ports : List ServedPort) : List ServedPort := ports.map correctPort

/-- The ports of Theia and the other servers of the workspace. -/
def internalPorts : List Int := [22999, 23000, 23222, 44444]

/-- Ports of the workspace itself, and those that others are forwarded to, are left out. -/
def filterInternalPorts (forwardedPorts : List (Option Int)) (ports : List ServedPort) :
    List ServedPort :=
  (ports.filter fun p => internalPorts.all fun n => !sameNumber p.portNumber (some n)).filter
    fun p => !forwardedPorts.contains (p.portNumber.map fun n => n - 30000)

/-- The ports that are forwarded already. -/
def filterForwardedPorts (forwardedPorts : List (Option Int)) (ports : List ServedPort) :
    List ServedPort :=
  ports.filter fun p => forwardedPorts.contains p.portNumber

/-- What two lists of ports do not have in common. -/
structure PortDiff where
  hasDifference : Bool
  aSubB : List ServedPort
  bSubA : List ServedPort

/-- The ports whose numbers the other list does not have. -/
def withoutNumbersOf (a b : List ServedPort) : List ServedPort :=
  a.filter fun pa => !b.any fun pb => sameNumber pa.portNumber pb.portNumber

/-- The comparison in both directions. Only numbers are compared. -/
def setMinus (a b : List ServedPort) : PortDiff :=
  let aSubB := withoutNumbersOf a b
  let bSubA := withoutNumbersOf b a
  { hasDifference := decide (aSubB.length ≠ 0) || decide (bSubA.length ≠ 0)
    aSubB := aSubB
    bSubA := bSubA }

/-- The server, with the events it sent so far. Of a process that forwards a port, which is the
value in the map of the forwarded ports, only the port is told. -/
structure Server (κ : Type*) where
  clients : List κ
  forwardedPorts : List (Option Int)
  readyPorts : Map (Option Int) Bool
  processes : List (Option Int)
  previouslyOpenPorts : List ServedPort
  sent : List ServedPortsChangeEvent

/-- Nobody is told anything yet. -/
def Server.start (κ : Type*) : Server κ := ⟨[], [], ∅, [], [], []⟩

variable {κ : Type*}

/-- Ports that need no forwarding are ready. -/
def forwardPort (s : Server κ) (port : ServedPort) : Server κ :=
  if sameNumber port.portNumber port.internalPort then
    { s with readyPorts := s.readyPorts.insert port.portNumber false }
  else
    { s with
      forwardedPorts := s.forwardedPorts.insert port.portNumber
      processes := s.processes ++ [port.portNumber] }

/-- A forwarded port that is listening is ready. -/
def markReady (readyPorts : Map (Option Int) Bool) (forwardedPorts : List ServedPort) :
    Map (Option Int) Bool :=
  forwardedPorts.foldl
    (fun ready p =>
      if (ready.lookup p.portNumber).isSome then ready else ready.insert p.portNumber true)
    readyPorts

/-- What `checkPorts` does with the ports that it got. -/
def onPorts (s : Server κ) (openPorts forwardedPorts : List ServedPort) : Server κ :=
  let ready := markReady s.readyPorts forwardedPorts
  let portDiff := setMinus s.previouslyOpenPorts openPorts
  if portDiff.hasDifference then
    let didClose := correctLocalGlobal portDiff.aSubB
    let told := { s with
      previouslyOpenPorts := openPorts
      sent := s.sent ++ [{
        ports := correctLocalGlobal openPorts
        didOpen := correctLocalGlobal portDiff.bSubA
        didClose := didClose }]
      readyPorts := Map.eraseAll ready (didClose.map ServedPort.portNumber) }
    portDiff.bSubA.foldl forwardPort told
  else { s with readyPorts := ready }

/-- Without the output of the command there is no port autodiscovery. -/
def checkPorts (s : Server κ) (rawProcInfo : Option String) : Server κ :=
  if s.clients.length = 0 then s
  else match rawProcInfo with
    | none => s
    | some rawProcInfo =>
        let allPorts := findListeningPorts rawProcInfo
        onPorts s (filterInternalPorts s.forwardedPorts allPorts)
          (filterForwardedPorts s.forwardedPorts allPorts)

/-- What happens. A check finds the tables, or it fails to read them. -/
inductive Action (κ : Type*)
  | setClient (client : κ)
  | disposeClient (client : κ)
  | check (snap : Option Snapshot)
  | exit (port : Option Int)

/-- One step of the server. A process that is not there does not exit. -/
def step [DecidableEq κ] (s : Server κ) : Action κ → Option (Server κ)
  | .setClient client => some { s with clients := s.clients ++ [client] }
  | .disposeClient client => some { s with clients := s.clients.erase client }
  | .check snap => some (checkPorts s (snap.map Snapshot.text))
  | .exit port =>
      if port ∈ s.processes then
        some { s with
          processes := s.processes.erase port
          forwardedPorts := s.forwardedPorts.filter fun p => p ≠ port }
      else none

/-! ## What is asked -/

/-- What a client knows that receives all events. -/
def Server.known (s : Server κ) : List ServedPort :=
  (s.sent.getLast?.map ServedPortsChangeEvent.ports).getD []

/-- A port that is listening and not internal. -/
def Snapshot.Listed (snap : Snapshot) (forwardedPorts : List (Option Int)) (n : Nat) : Prop :=
  (∃ sock ∈ snap.listeners, sock.port.toNat = n) ∧ (n : Int) ∉ internalPorts ∧
    some ((n : Int) - 30000) ∉ forwardedPorts

/-- How a port is served. A port that is forwarded is served globally. -/
def Snapshot.served (snap : Snapshot) (n : Nat) : PortServedState :=
  if forwardedTo n ≠ n ∨ ∃ sock ∈ snap.listeners, sock.port.toNat = n ∧ sock.address.any = true then
    .globally
  else .locally

/-- The port of a number, as it is served. -/
def Snapshot.servedPort (snap : Snapshot) (n : Nat) : ServedPort where
  portNumber := some n
  internalPort := some (forwardedTo n)
  served := snap.served n

/-- What a check has to achieve. -/
structure UpToDate (snap : Snapshot) (s s' : Server κ) : Prop where
  one_entry : (s'.known.map ServedPort.portNumber).Nodup
  current : ∀ p, p ∈ s'.known ↔ ∃ n, snap.Listed s.forwardedPorts n ∧ p = snap.servedPort n
  differences : ∀ e, s'.sent = s.sent ++ [e] →
    e.didOpen = (s'.known.filter fun p => p ∉ s.known) ∧
      e.didClose = s.known.filter fun p => p ∉ s'.known

/-- After a check with clients, they are up to date. -/
def Achieved (s : Server κ) (a : Action κ) (s' : Server κ) : Prop :=
  match a with
  | .check (some snap) => s.clients ≠ [] → UpToDate snap s s'
  | _ => True

/-- What is known and still listens is served as before. -/
def Kept (snap : Snapshot) (s : Server κ) : Prop :=
  ∀ n, snap.Listed s.forwardedPorts n → ∀ p ∈ s.known, p.portNumber = some (n : Int) →
    p.served = snap.served n

/-- No port listens on all addresses and on a single one. -/
def Snapshot.Single (snap : Snapshot) (forwardedPorts : List (Option Int)) : Prop :=
  ∀ sock ∈ snap.listeners, ∀ sock' ∈ snap.listeners,
    snap.Listed forwardedPorts sock.port.toNat → sock.port = sock'.port →
      sock.address.any = sock'.address.any

/-- The condition on a check. -/
structure Steady (snap : Snapshot) (s : Server κ) : Prop where
  kept : Kept snap s
  /-- When a port is opened or closed. -/
  single : (∃ n : Nat, ¬(snap.Listed s.forwardedPorts n ↔
    some (n : Int) ∈ s.known.map ServedPort.portNumber)) → snap.Single s.forwardedPorts

/-- At a check with clients, no port listens in another way than before. -/
def Steadily (s : Server κ) (a : Action κ) : Prop :=
  match a with
  | .check (some snap) => s.clients ≠ [] → Steady snap s
  | _ => True

/-! ## Numbers -/

/-- A port with a number, and the port it is forwarded to. -/
def Genuine (p : ServedPort) : Prop :=
  ∃ n : Nat, p.portNumber = some (n : Int) ∧ p.internalPort = some (forwardedTo n : Int)

variable {p q : ServedPort} {a b ports : List ServedPort} {snap : Snapshot} {s : Server κ}

/-- When a number is the same as one that may be missing. -/
theorem sameNumber_some (n : Int) (x : Option Int) :
    sameNumber (some n) x = true ↔ some n = x := by
  cases x with
  | none => exact iff_of_false nofun nofun
  | some m => rw [sameNumber, beq_iff_eq, Option.some_inj]

theorem portNumber_correctPort (p : ServedPort) : (correctPort p).portNumber = p.portNumber := by
  rw [correctPort]
  split_ifs
  · rfl
  · rfl

theorem internalPort_correctPort (p : ServedPort) :
    (correctPort p).internalPort = p.internalPort := by
  rw [correctPort]
  split_ifs
  · rfl
  · rfl

theorem numbers_correctLocalGlobal (ports : List ServedPort) :
    (correctLocalGlobal ports).map ServedPort.portNumber = ports.map ServedPort.portNumber := by
  rw [correctLocalGlobal, List.map_map]
  exact List.map_congr_left fun p _ => portNumber_correctPort p

theorem mem_withoutNumbersOf (ha : ∀ p ∈ a, Genuine p) :
    p ∈ withoutNumbersOf a b ↔ p ∈ a ∧ p.portNumber ∉ b.map ServedPort.portNumber := by
  rw [withoutNumbersOf, List.mem_filter]
  refine and_congr_right fun hp => ?_
  rcases ha p hp with ⟨n, hn, -⟩
  rw [Bool.not_eq_true', ← Bool.not_eq_true, List.any_eq_true, List.mem_map, hn]
  refine not_congr (exists_congr fun q => and_congr_right fun _ => ?_)
  rw [sameNumber_some]
  exact eq_comm

/-- There is no difference when both lists have the same numbers. -/
theorem hasDifference_eq_false_iff (ha : ∀ p ∈ a, Genuine p) (hb : ∀ p ∈ b, Genuine p) :
    (setMinus a b).hasDifference = false ↔
      ∀ x, x ∈ a.map ServedPort.portNumber ↔ x ∈ b.map ServedPort.portNumber := by
  have hsubset : ∀ {a b : List ServedPort}, (∀ p ∈ a, Genuine p) →
      ((withoutNumbersOf a b).length = 0 ↔
        ∀ x ∈ a.map ServedPort.portNumber, x ∈ b.map ServedPort.portNumber) := by
    intro a b ha
    rw [List.length_eq_zero_iff, List.eq_nil_iff_forall_not_mem, List.forall_mem_map]
    refine forall_congr' fun p => ?_
    rw [mem_withoutNumbersOf ha, not_and, not_not]
  rw [setMinus, Bool.or_eq_false_iff, decide_eq_false_iff_not, decide_eq_false_iff_not, not_not,
    not_not, hsubset ha, hsubset hb]
  exact ⟨fun h x => ⟨h.1 x, h.2 x⟩, fun h => ⟨fun x => (h x).mp, fun x => (h x).mpr⟩⟩

/-! ## What is found -/

/-- The ports that are found. -/
def Snapshot.openPorts (snap : Snapshot) (forwardedPorts : List (Option Int)) : List ServedPort :=
  filterInternalPorts forwardedPorts (distinct (snap.listeners.map Socket.servedPort))

variable {forwardedPorts : List (Option Int)}

/-- The open ports are those of sockets that listen and are listed. -/
theorem mem_openPorts : p ∈ snap.openPorts forwardedPorts ↔
    ∃ sock ∈ snap.listeners, snap.Listed forwardedPorts sock.port.toNat ∧ sock.servedPort = p := by
  have hsock : ∀ sock ∈ snap.listeners,
      ((internalPorts.all fun n => !sameNumber sock.servedPort.portNumber (some n)) = true ∧
        (!forwardedPorts.contains (sock.servedPort.portNumber.map fun n => n - 30000)) = true ↔
        snap.Listed forwardedPorts sock.port.toNat) := by
    intro sock hsock
    refine Iff.trans (and_congr ?_ ?_) (and_iff_right ⟨sock, hsock, rfl⟩).symm
    · simp only [Socket.servedPort, List.all_eq_true, Bool.not_eq_true', ← Bool.not_eq_true,
        sameNumber_some, Option.some_inj]
      exact ⟨fun h hmem => h _ hmem rfl, fun h n hn heq => h (heq ▸ hn)⟩
    · rw [Bool.not_eq_true', ← Bool.not_eq_true, List.contains_iff_mem]
      rfl
  rw [Snapshot.openPorts, filterInternalPorts, List.mem_filter, List.mem_filter, mem_distinct,
    List.mem_map]
  constructor
  · rintro ⟨⟨⟨sock, hmem, rfl⟩, hinternal⟩, hforwarded⟩
    exact ⟨sock, hmem, (hsock sock hmem).mp ⟨hinternal, hforwarded⟩, rfl⟩
  · rintro ⟨sock, hmem, hlisted, rfl⟩
    rcases (hsock sock hmem).mpr hlisted with ⟨hinternal, hforwarded⟩
    exact ⟨⟨⟨sock, hmem, rfl⟩, hinternal⟩, hforwarded⟩

theorem nodup_openPorts : (snap.openPorts forwardedPorts).Nodup :=
  ((nodup_distinct _).filter _).filter _

/-- Open ports have a number, and the one they are forwarded to. -/
theorem genuine_openPorts : ∀ p ∈ snap.openPorts forwardedPorts, Genuine p := by
  intro p hp
  rcases mem_openPorts.mp hp with ⟨sock, -, -, rfl⟩
  exact ⟨sock.port.toNat, rfl, rfl⟩

theorem mem_numbers_openPorts {n : Nat} :
    some (n : Int) ∈ (snap.openPorts forwardedPorts).map ServedPort.portNumber ↔
      snap.Listed forwardedPorts n := by
  rw [List.mem_map]
  constructor
  · rintro ⟨p, hp, hn⟩
    rcases mem_openPorts.mp hp with ⟨sock, -, hlisted, rfl⟩
    have hport : (sock.port.toNat : Int) = n := Option.some_inj.mp hn
    rwa [Int.natCast_inj.mp hport] at hlisted
  · intro hlisted
    rcases hlisted.1 with ⟨sock, hsock, rfl⟩
    exact ⟨sock.servedPort, mem_openPorts.mpr ⟨sock, hsock, hlisted, rfl⟩, rfl⟩

/-- When no port is found twice. -/
theorem nodup_numbers_iff :
    ((snap.openPorts forwardedPorts).map ServedPort.portNumber).Nodup ↔
      snap.Single forwardedPorts := by
  have hserved : ∀ sock sock' : Socket,
      sock.servedPort.served = sock'.servedPort.served → sock.address.any = sock'.address.any := by
    intro sock sock' h
    cases hany : sock.address.any <;> cases hany' : sock'.address.any <;>
      simp only [Socket.servedPort, hany, hany', if_true, Bool.false_eq_true, if_false,
        reduceCtorEq] at h ⊢
  constructor
  · intro hnodup sock hsock sock' hsock' hlisted hport
    have hmem := mem_openPorts.mpr ⟨sock, hsock, hlisted, rfl⟩
    have hmem' := mem_openPorts.mpr ⟨sock', hsock', hport ▸ hlisted, rfl⟩
    have heq := List.inj_on_of_nodup_map hnodup hmem hmem'
      (congrArg (fun port : BitVec 16 => some (port.toNat : Int)) hport)
    exact hserved sock sock' (congrArg ServedPort.served heq)
  · intro hsingle
    -- a port that was found has its internal port by its number, so only the address is left
    refine nodup_openPorts.map_on fun p hp q hq hnumber => ?_
    rcases mem_openPorts.mp hp with ⟨sock, hsock, hlisted, rfl⟩
    rcases mem_openPorts.mp hq with ⟨sock', hsock', -, rfl⟩
    have hport : sock.port = sock'.port :=
      BitVec.eq_of_toNat_eq (Int.natCast_inj.mp (Option.some_inj.mp hnumber))
    rw [Socket.servedPort, Socket.servedPort, hport, hsingle sock hsock sock' hsock' hlisted hport]

/-- A port that is found once is told as it is served. -/
theorem correctPort_servedPort (hsingle : snap.Single forwardedPorts) {sock : Socket}
    (hsock : sock ∈ snap.listeners) (hlisted : snap.Listed forwardedPorts sock.port.toNat) :
    correctPort sock.servedPort = snap.servedPort sock.port.toNat := by
  have hsame : sameNumber sock.servedPort.internalPort sock.servedPort.portNumber = false ↔
      forwardedTo sock.port.toNat ≠ sock.port.toNat := by
    rw [← Bool.not_eq_true, Socket.servedPort, sameNumber_some, Option.some_inj, Int.natCast_inj]
  have hany : (∃ sock' ∈ snap.listeners,
      sock'.port.toNat = sock.port.toNat ∧ sock'.address.any = true) ↔ sock.address.any = true := by
    constructor
    · rintro ⟨sock', hsock', hport, hany⟩
      rw [hsingle sock hsock sock' hsock' hlisted (BitVec.eq_of_toNat_eq hport.symm), hany]
    · exact fun hany => ⟨sock, hsock, rfl, hany⟩
  rw [Snapshot.servedPort, correctPort]
  simp only [Snapshot.served, hany, hsame]
  by_cases hforwarded : forwardedTo sock.port.toNat = sock.port.toNat
  · rw [if_neg fun h => h.2 hforwarded, Socket.servedPort, hforwarded]
    simp only [ne_eq, not_true_eq_false, false_or]
  · rw [if_pos (Or.inl hforwarded)]
    split_ifs with hlocal
    · rfl
    · have hglobal : sock.servedPort.served = .globally := by
        cases h : sock.servedPort.served with
        | globally => rfl
        | locally => exact absurd ⟨h, hforwarded⟩ hlocal
      rw [← hglobal]
      rfl

/-! ## A check -/

theorem foldl_forwardPort (ports : List ServedPort) (s : Server κ) :
    (ports.foldl forwardPort s).sent = s.sent ∧
      (ports.foldl forwardPort s).previouslyOpenPorts = s.previouslyOpenPorts := by
  induction ports generalizing s with
  | nil => exact ⟨rfl, rfl⟩
  | cons port ports ih =>
      have hport : (forwardPort s port).sent = s.sent ∧
          (forwardPort s port).previouslyOpenPorts = s.previouslyOpenPorts := by
        rw [forwardPort]
        split_ifs
        · exact ⟨rfl, rfl⟩
        · exact ⟨rfl, rfl⟩
      rw [List.foldl_cons, (ih _).1, (ih _).2]
      exact hport

/-- What the clients are told when there is a difference. -/
def changeEvent (s : Server κ) (openPorts : List ServedPort) : ServedPortsChangeEvent where
  ports := correctLocalGlobal openPorts
  didOpen := correctLocalGlobal (withoutNumbersOf openPorts s.previouslyOpenPorts)
  didClose := correctLocalGlobal (withoutNumbersOf s.previouslyOpenPorts openPorts)

theorem onPorts_of_difference {openPorts : List ServedPort} (forwarded : List ServedPort)
    (h : (setMinus s.previouslyOpenPorts openPorts).hasDifference = true) :
    (onPorts s openPorts forwarded).sent = s.sent ++ [changeEvent s openPorts] ∧
      (onPorts s openPorts forwarded).previouslyOpenPorts = openPorts := by
  rw [onPorts, if_pos h, (foldl_forwardPort _ _).1, (foldl_forwardPort _ _).2]
  exact ⟨rfl, rfl⟩

theorem onPorts_of_no_difference {openPorts : List ServedPort} (forwarded : List ServedPort)
    (h : (setMinus s.previouslyOpenPorts openPorts).hasDifference = false) :
    (onPorts s openPorts forwarded).sent = s.sent ∧
      (onPorts s openPorts forwarded).previouslyOpenPorts = s.previouslyOpenPorts := by
  rw [onPorts, h, if_neg Bool.false_ne_true]
  exact ⟨rfl, rfl⟩

/-- What holds between the checks of a run in which all of them are up to date. -/
structure Synced (s : Server κ) : Prop where
  known_eq : s.known = correctLocalGlobal s.previouslyOpenPorts
  nodup : (s.known.map ServedPort.portNumber).Nodup
  genuine : ∀ p ∈ s.previouslyOpenPorts, Genuine p

/-- What clients know has the numbers of the last check. -/
theorem Synced.numbers (h : Synced s) :
    s.known.map ServedPort.portNumber = s.previouslyOpenPorts.map ServedPort.portNumber := by
  rw [h.known_eq, numbers_correctLocalGlobal]

theorem Synced.genuine_known (h : Synced s) : ∀ p ∈ s.known, Genuine p := by
  intro p hp
  rw [h.known_eq] at hp
  rcases List.mem_map.mp hp with ⟨q, hq, rfl⟩
  rcases h.genuine q hq with ⟨n, hn, hforwarded⟩
  exact ⟨n, (portNumber_correctPort q).trans hn, (internalPort_correctPort q).trans hforwarded⟩

/-- A genuine port is known by its number and by how it is served. -/
theorem eq_servedPort {n : Nat} (hp : Genuine p) (hn : p.portNumber = some (n : Int))
    (hserved : p.served = snap.served n) : p = snap.servedPort n := by
  rcases hp with ⟨m, hm, hforwarded⟩
  have hmn : m = n := Int.natCast_inj.mp (Option.some_inj.mp (hm.symm.trans hn))
  rw [Snapshot.servedPort, ← hn, ← hserved, ← hmn, ← hforwarded]

/-- A check that found something else by the numbers. -/
theorem difference_iff (h : Synced s) :
    (setMinus s.previouslyOpenPorts (snap.openPorts s.forwardedPorts)).hasDifference = true ↔
      ∃ n : Nat, ¬(snap.Listed s.forwardedPorts n ↔
        some (n : Int) ∈ s.known.map ServedPort.portNumber) := by
  rw [← Bool.not_eq_false, hasDifference_eq_false_iff h.genuine genuine_openPorts, ← not_forall,
    h.numbers]
  -- the numbers on both sides are those of ports, so it is enough to compare natural numbers
  refine not_congr ⟨fun hall n => mem_numbers_openPorts.symm.trans (hall _).symm, fun hall x => ?_⟩
  have hnat : ∀ {l : List ServedPort}, (∀ p ∈ l, Genuine p) →
      x ∈ l.map ServedPort.portNumber → ∃ n : Nat, x = some (n : Int) := by
    intro l hl hx
    rcases List.mem_map.mp hx with ⟨p, hp, rfl⟩
    rcases hl p hp with ⟨n, hn, -⟩
    exact ⟨n, hn⟩
  constructor
  · intro hx
    rcases hnat h.genuine hx with ⟨n, rfl⟩
    exact mem_numbers_openPorts.mpr ((hall n).mpr hx)
  · intro hx
    rcases hnat genuine_openPorts hx with ⟨n, rfl⟩
    exact (hall n).mp (mem_numbers_openPorts.mp hx)

variable {s' : Server κ}

theorem known_of_sent {e : ServedPortsChangeEvent} (h : s'.sent = s.sent ++ [e]) :
    s'.known = e.ports := by
  rw [Server.known, h, List.getLast?_concat]
  rfl

/-- Where no port was opened or closed nothing is told. -/
theorem upToDate_iff_of_no_difference (h : Synced s) (hsent : s'.sent = s.sent)
    (hsame : ∀ n : Nat, snap.Listed s.forwardedPorts n ↔
      some (n : Int) ∈ s.known.map ServedPort.portNumber) :
    UpToDate snap s s' ↔ Kept snap s := by
  have hknown : s'.known = s.known := by rw [Server.known, hsent, Server.known]
  constructor
  · intro hup n _ p hp hn
    rw [← hknown] at hp
    rcases (hup.current p).mp hp with ⟨m, -, rfl⟩
    rw [Int.natCast_inj.mp (Option.some_inj.mp hn)]
    rfl
  · intro hkept
    refine ⟨hknown ▸ h.nodup, fun p => ?_, fun e he => ?_⟩
    · rw [hknown]
      constructor
      · intro hp
        have hgenuine := h.genuine_known p hp
        rcases hgenuine with ⟨n, hn, -⟩
        have hlisted := (hsame n).mpr (List.mem_map.mpr ⟨p, hp, hn⟩)
        exact ⟨n, hlisted, eq_servedPort (h.genuine_known p hp) hn (hkept n hlisted p hp hn)⟩
      · rintro ⟨n, hlisted, rfl⟩
        rcases List.mem_map.mp ((hsame n).mp hlisted) with ⟨q, hq, hn⟩
        rw [← eq_servedPort (h.genuine_known q hq) hn (hkept n hlisted q hq hn)]
        exact hq
    · have hlength := congrArg List.length (hsent.symm.trans he)
      rw [List.length_append, List.length_singleton] at hlength
      omega

/-- A difference by the numbers is the difference of what is known where the ports that are in
both lists are known as they are. -/
theorem correct_withoutNumbersOf {known : List ServedPort} (ha : ∀ p ∈ a, Genuine p)
    (hab : ∀ p ∈ a, p.portNumber ∈ b.map ServedPort.portNumber ↔ correctPort p ∈ known) :
    correctLocalGlobal (withoutNumbersOf a b) =
      (correctLocalGlobal a).filter fun p => p ∉ known := by
  rw [correctLocalGlobal, correctLocalGlobal, List.filter_map, withoutNumbersOf]
  refine congrArg _ (List.filter_congr fun p hp => ?_)
  have hmem := mem_withoutNumbersOf (b := b) (p := p) ha
  rw [withoutNumbersOf, List.mem_filter, and_iff_right hp, and_iff_right hp, hab p hp] at hmem
  exact Bool.eq_iff_iff.mpr (hmem.trans decide_eq_true_iff.symm)

/-- Where a port was opened or closed all ports are told. -/
theorem upToDate_iff_of_difference (h : Synced s)
    (hsent : s'.sent = s.sent ++ [changeEvent s (snap.openPorts s.forwardedPorts)]) :
    UpToDate snap s s' ↔ Kept snap s ∧ snap.Single s.forwardedPorts := by
  have hknown : s'.known = correctLocalGlobal (snap.openPorts s.forwardedPorts) :=
    known_of_sent hsent
  have hnumbers : s'.known.map ServedPort.portNumber =
      (snap.openPorts s.forwardedPorts).map ServedPort.portNumber := by
    rw [hknown, numbers_correctLocalGlobal]
  constructor
  · intro hup
    refine ⟨fun n hlisted p hp hn => ?_, nodup_numbers_iff.mp (hnumbers ▸ hup.one_entry)⟩
    by_contra hne
    -- the port is known in another way, so it has to be told as opened
    have hmem : snap.servedPort n ∈ s'.known := (hup.current _).mpr ⟨n, hlisted, rfl⟩
    have hnot : snap.servedPort n ∉ s.known := fun hmem' =>
      hne (congrArg ServedPort.served (List.inj_on_of_nodup_map h.nodup hp hmem' hn))
    have hopen : snap.servedPort n ∈
        (changeEvent s (snap.openPorts s.forwardedPorts)).didOpen := by
      rw [(hup.differences _ hsent).1, List.mem_filter]
      exact ⟨hmem, decide_eq_true hnot⟩
    -- but its number is not new
    rcases List.mem_map.mp hopen with ⟨q, hq, hcorrect⟩
    refine ((mem_withoutNumbersOf genuine_openPorts).mp hq).2 ?_
    rw [← h.numbers, ← portNumber_correctPort q, hcorrect]
    exact List.mem_map.mpr ⟨p, hp, hn⟩
  · rintro ⟨hkept, hsingle⟩
    have hcurrent : ∀ p, p ∈ s'.known ↔
        ∃ n, snap.Listed s.forwardedPorts n ∧ p = snap.servedPort n := by
      intro p
      rw [hknown, correctLocalGlobal, List.mem_map]
      constructor
      · rintro ⟨q, hq, rfl⟩
        rcases mem_openPorts.mp hq with ⟨sock, hsock, hlisted, rfl⟩
        exact ⟨_, hlisted, correctPort_servedPort hsingle hsock hlisted⟩
      · rintro ⟨n, hlisted, rfl⟩
        rcases hlisted.1 with ⟨sock, hsock, rfl⟩
        exact ⟨_, mem_openPorts.mpr ⟨sock, hsock, hlisted, rfl⟩,
          correctPort_servedPort hsingle hsock hlisted⟩
    have heq : ∀ q ∈ s.known, ∀ n : Nat, snap.Listed s.forwardedPorts n →
        q.portNumber = some (n : Int) → q = snap.servedPort n := fun q hq n hlisted hn =>
      eq_servedPort (h.genuine_known q hq) hn (hkept n hlisted q hq hn)
    refine ⟨hnumbers ▸ nodup_numbers_iff.mpr hsingle, hcurrent, fun e he => ?_⟩
    rw [← List.singleton_inj.mp (List.append_cancel_left (hsent.symm.trans he))]
    -- a port in both lists is known as it is served now, so it is no difference of what is known
    constructor
    · rw [hknown]
      refine correct_withoutNumbersOf genuine_openPorts fun p hp => ?_
      rw [← h.numbers]
      constructor
      · intro hmem
        rcases List.mem_map.mp hmem with ⟨q, hq, hn⟩
        rcases mem_openPorts.mp hp with ⟨sock, hsock, hlisted, rfl⟩
        rw [correctPort_servedPort hsingle hsock hlisted, ← heq q hq _ hlisted hn]
        exact hq
      · intro hmem
        rw [← portNumber_correctPort p]
        exact List.mem_map_of_mem hmem
    · rw [h.known_eq]
      refine correct_withoutNumbersOf h.genuine fun p hp => ?_
      rw [← hnumbers]
      constructor
      · intro hmem
        rcases h.genuine p hp with ⟨n, hn, -⟩
        rw [hnumbers, hn, mem_numbers_openPorts] at hmem
        have hp : correctPort p ∈ s.known := by
          rw [h.known_eq]
          exact List.mem_map_of_mem hp
        rw [heq _ hp n hmem ((portNumber_correctPort p).trans hn)]
        exact (hcurrent _).mpr ⟨n, hmem, rfl⟩
      · intro hmem
        rw [← portNumber_correctPort p]
        exact List.mem_map_of_mem hmem

/-- A check of the clients' server. -/
theorem checkPorts_text (hclients : s.clients ≠ []) (snap : Snapshot) :
    checkPorts s (some snap.text) = onPorts s (snap.openPorts s.forwardedPorts)
      (filterForwardedPorts s.forwardedPorts
        (distinct (snap.listeners.map Socket.servedPort))) := by
  rw [checkPorts, if_neg fun hlength => hclients (List.length_eq_zero_iff.mp hlength)]
  dsimp only
  rw [findListeningPorts_text, Snapshot.openPorts]

/-- A check brings the clients up to date exactly when it is steady. -/
theorem upToDate_checkPorts_iff (h : Synced s) (hclients : s.clients ≠ []) (snap : Snapshot) :
    UpToDate snap s (checkPorts s (some snap.text)) ↔ Steady snap s := by
  have hsteady : Steady snap s ↔ Kept snap s ∧
      ((setMinus s.previouslyOpenPorts (snap.openPorts s.forwardedPorts)).hasDifference = true →
        snap.Single s.forwardedPorts) := by
    rw [difference_iff h]
    exact ⟨fun hs => ⟨hs.kept, hs.single⟩, fun hs => ⟨hs.1, hs.2⟩⟩
  rw [hsteady, checkPorts_text hclients]
  cases hdiff : (setMinus s.previouslyOpenPorts
      (snap.openPorts s.forwardedPorts)).hasDifference with
  | false =>
      have hsame : ∀ n : Nat, snap.Listed s.forwardedPorts n ↔
          some (n : Int) ∈ s.known.map ServedPort.portNumber := by
        intro n
        by_contra hne
        rw [← Bool.not_eq_true] at hdiff
        exact hdiff ((difference_iff h).mpr ⟨n, hne⟩)
      rw [upToDate_iff_of_no_difference h (onPorts_of_no_difference _ hdiff).1 hsame]
      exact (and_iff_left (fun htrue => nomatch htrue)).symm
  | true =>
      rw [upToDate_iff_of_difference h (onPorts_of_difference _ hdiff).1]
      exact and_congr_right fun _ => ⟨fun hsingle _ => hsingle, fun hsingle => hsingle rfl⟩

/-! ## Runs -/

theorem synced_start : Synced (Server.start κ) :=
  ⟨rfl, List.nodup_nil, nofun⟩

/-- Nothing but a check tells the clients anything. -/
theorem synced_of_frame (h : Synced s) (hsent : s'.sent = s.sent)
    (hports : s'.previouslyOpenPorts = s.previouslyOpenPorts) : Synced s' := by
  have hknown : s'.known = s.known := by rw [Server.known, hsent, Server.known]
  exact ⟨by rw [hknown, hports, h.known_eq], hknown ▸ h.nodup, hports ▸ h.genuine⟩

/-- A check that leaves clients up to date leaves them synced. -/
theorem synced_checkPorts (h : Synced s) {snap : Snapshot} (hclients : s.clients ≠ [])
    (hup : UpToDate snap s (checkPorts s (some snap.text))) :
    Synced (checkPorts s (some snap.text)) := by
  cases hdiff : (setMinus s.previouslyOpenPorts
      (snap.openPorts s.forwardedPorts)).hasDifference with
  | false =>
      rw [checkPorts_text hclients]
      rcases onPorts_of_no_difference (filterForwardedPorts s.forwardedPorts
        (distinct (snap.listeners.map Socket.servedPort))) hdiff with ⟨hsent, hports⟩
      exact synced_of_frame h hsent hports
  | true =>
      have hnodup := hup.one_entry
      rw [checkPorts_text hclients] at hnodup ⊢
      rcases onPorts_of_difference (filterForwardedPorts s.forwardedPorts
        (distinct (snap.listeners.map Socket.servedPort))) hdiff with ⟨hsent, hports⟩
      refine ⟨?_, hnodup, ?_⟩
      · rw [hports]
        exact known_of_sent hsent
      · rw [hports]
        exact genuine_openPorts

variable [DecidableEq κ]

/-- The step lemma, for a step that achieves what it should. -/
theorem synced_step {act : Action κ} (h : Synced s) (hstep : step s act = some s')
    (hach : Achieved s act s') : Synced s' := by
  cases act with
  | setClient client =>
      rw [← Option.some_inj.mp hstep]
      exact synced_of_frame h rfl rfl
  | disposeClient client =>
      rw [← Option.some_inj.mp hstep]
      exact synced_of_frame h rfl rfl
  | exit port =>
      rw [step] at hstep
      split at hstep
      · rw [← Option.some_inj.mp hstep]
        exact synced_of_frame h rfl rfl
      · exact nomatch hstep
  | check snap =>
      -- Without clients nothing is looked up.
      by_cases hclients : s.clients = []
      · have hsame : checkPorts s (snap.map Snapshot.text) = s :=
          if_pos (List.length_eq_zero_iff.mpr hclients)
        rw [← Option.some_inj.mp hstep, hsame]
        exact h
      · cases snap with
        | none =>
            have hsame : checkPorts s none = s :=
              if_neg fun hlength => hclients (List.length_eq_zero_iff.mp hlength)
            rw [← Option.some_inj.mp hstep, Option.map_none, hsame]
            exact h
        | some snap =>
            rw [← Option.some_inj.mp hstep]
            rw [← Option.some_inj.mp hstep] at hach
            exact synced_checkPorts h hclients (hach hclients)

/-- A step achieves it if and only if ports are steady. -/
theorem achieved_iff {act : Action κ} (h : Synced s) (hstep : step s act = some s') :
    Achieved s act s' ↔ Steadily s act := by
  cases act with
  | setClient client => exact Iff.rfl
  | disposeClient client => exact Iff.rfl
  | exit port => exact Iff.rfl
  | check snap =>
      cases snap with
      | none => exact Iff.rfl
      | some snap =>
          rw [← Option.some_inj.mp hstep]
          exact forall_congr' fun hclients => upToDate_checkPorts_iff h hclients snap

/-- In every run the clients are brought up to date by every check exactly when all checks are
    steady. Ports are compared by their numbers, so a check that finds the same numbers sends
    nothing, although they may be served in another way than before. -/
theorem upToDate_iff (acts : List (Action κ)) :
    StepsAlong step Achieved acts (Server.start κ) ↔
      MeetsAlong step Steadily acts (Server.start κ) :=
  stepsAlong_iff_meetsAlong_while (fun _ _ _ => synced_step) (fun _ _ _ => achieved_iff) acts
    (Server.start κ) synced_start

theorem word_of_all {w : List Char} (h : w.all (fun c => !Text.isSpace c) = true) :
    ∀ c ∈ w, Text.isSpace c = false := by
  intro c hc
  have hnot := List.all_eq_true.mp h c hc
  rwa [Bool.not_eq_true'] at hnot

/-- A socket that listens on a port with no room to be forwarded. -/
def listensOn (address : Address) : Snapshot where
  tcp := [{
    slot := 0
    address := address
    port := 40000
    remote := ⟨"00000000:0000".toList, by decide, word_of_all rfl⟩
    state := 10
    queues := ⟨"00000000:00000000".toList, by decide, word_of_all rfl⟩
    rest := []
    rest_blank := nofun }]
  tcp6 := []

/-- The clients are not told that a local port became a global one. -/
theorem global_not_told :
    ¬StepsAlong step Achieved [.setClient (), .check (some (listensOn (.v4 0x0100007F))),
      .check (some (listensOn (.v4 0)))] (Server.start Unit) := by
  rintro ⟨-, -, hach, -⟩
  let s : Server Unit := { Server.start Unit with clients := [()] }
  have hlocal : checkPorts s (some (listensOn (.v4 0x0100007F)).text) =
      onPorts s [⟨some 40000, some 40000, .locally⟩] [] :=
    checkPorts_text (by decide) _
  have hglobal : (checkPorts (onPorts s [⟨some 40000, some 40000, .locally⟩] [])
      (some (listensOn (.v4 0)).text)).known = [⟨some 40000, some 40000, .locally⟩] := by
    rw [checkPorts_text (by decide)]
    rfl
  change (checkPorts s (some _)).clients ≠ [] → UpToDate _ (checkPorts s (some _))
    (checkPorts (checkPorts s (some _)) (some _)) at hach
  rw [hlocal] at hach
  have hmem := ((hach (by decide)).current ⟨some 40000, some 40000, .globally⟩).mpr
    ⟨40000, ⟨⟨_, List.mem_cons_self, rfl⟩, by decide, List.not_mem_nil⟩, rfl⟩
  rw [hglobal, List.mem_singleton] at hmem
  exact absurd hmem (by decide)

end Theia

end Nxpod
