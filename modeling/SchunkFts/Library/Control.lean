import SchunkFts.Foundation.Run
import SchunkFts.Foundation.Struct

/-! The TCP connection object: its socket, `is_open` and `persistent`. A call of the operating
system is an input of the operation that makes it. -/

namespace SchunkFts.Library.Control
open SchunkFts.Foundation.Run SchunkFts.Foundation.Struct

inductive Socket where
  | fresh
  | connected
  | closed
  deriving DecidableEq, Repr

structure Connection where
  socket : Socket
  isOpen : Bool
  persistent : Bool
  deriving DecidableEq, Repr

/-- How opening meets the operating system: whether a new socket can be had when the old one is
closed, whether the server accepts, and whether `connect` reports success on a socket that is
connected already, which Linux does once after a `connect` with a timeout. -/
structure Opening where
  created : Bool := true
  accepted : Bool
  again : Bool := false
  deriving DecidableEq, Repr

def Opening.connects (opening : Opening) : Socket → Bool
  | .fresh => opening.accepted
  | .connected => opening.again
  | .closed => false

namespace Connection

def new : Connection where
  socket := .fresh
  isOpen := false
  persistent := false

/-- A socket that cannot be created leaves the old one in its place. -/
def resetSocket (c : Connection) (created : Bool) : Connection :=
  if created then { c with socket := .fresh } else c

def closeSocket (c : Connection) : Connection :=
  if c.isOpen then { socket := .closed, isOpen := false, persistent := false } else c

def close (c : Connection) (created : Bool) : Connection :=
  (closeSocket { c with persistent := false }).resetSocket created

/-- `__enter__`; what goes wrong is printed. -/
def enter (c : Connection) (opening : Opening) : Connection :=
  if c.isOpen then c
  else
    let ready := if c.socket = .closed then c.resetSocket opening.created else c
    if opening.connects ready.socket then
      { ready with socket := .connected, isOpen := true }
    else ready

/-- `__exit__` -/
def exit (c : Connection) : Connection := if c.persistent then c else c.closeSocket

/-- `open` -/
def openUp (c : Connection) (opening : Opening) : Connection × Bool :=
  let entered := c.enter opening
  if entered.isOpen then ({ entered with persistent := true }, true) else (entered, false)

/-- Whatever `sendall` raises becomes `False`. -/
def send (c : Connection) (sent : Bool) : Bool := c.isOpen && sent

/-- `none` is an `OSError`, a timeout among them. -/
def receive (c : Connection) (received : Option Bytes) : Connection × Bytes :=
  if c.isOpen then
    match received with
    | some data => (c, data)
    | none => ({ c with isOpen := false }, [])
  else (c, [])

@[simp] theorem closeSocket_isOpen (c : Connection) : c.closeSocket.isOpen = false := by
  unfold closeSocket
  split_ifs with opened
  · rfl
  · exact Bool.eq_false_iff.mpr opened

@[simp] theorem close_new (c : Connection) : c.close true = new := by
  obtain ⟨socket, isOpen, persistent⟩ := c
  cases isOpen <;> rfl

@[simp] theorem enter_persistent (c : Connection) (opening : Opening) :
    (c.enter opening).persistent = c.persistent := by
  simp only [enter, resetSocket]
  split_ifs <;> rfl

theorem enter_open (c : Connection) (opening : Opening) (opened : c.isOpen = true) :
    c.enter opening = c := if_pos opened

@[simp] theorem exit_persistent (c : Connection) : c.exit.persistent = c.persistent := by
  unfold exit closeSocket
  split_ifs with kept opened
  · rfl
  · exact (Bool.eq_false_iff.mpr kept).symm
  · rfl

@[simp] theorem exit_isOpen (c : Connection) : c.exit.isOpen = (c.isOpen && c.persistent) := by
  unfold exit
  split_ifs with kept
  · rw [kept, Bool.and_true]
  · rw [closeSocket_isOpen, Bool.eq_false_iff.mpr kept, Bool.and_false]

@[simp] theorem receive_persistent (c : Connection) (received : Option Bytes) :
    (c.receive received).1.persistent = c.persistent := by
  unfold receive
  split_ifs
  · cases received <;> rfl
  · rfl

@[simp] theorem receive_isOpen (c : Connection) (received : Option Bytes) :
    (c.receive received).1.isOpen = (c.isOpen && received.isSome) := by
  unfold receive
  split_ifs with opened
  · cases received with
    | none => exact (Bool.and_false _).symm
    | some data => exact (Bool.and_true _).symm
  · simp only [Bool.eq_false_iff.mpr opened, Bool.false_and]

/-- Opening leaves the connection open and persistent, or not open at all. -/
theorem openUp_spec (c : Connection) (opening : Opening) :
    (c.openUp opening).1.isOpen = (c.openUp opening).2 ∧
      (c.openUp opening).1.persistent = ((c.openUp opening).2 || c.persistent) := by
  simp only [openUp]
  split_ifs with entered
  · exact ⟨entered, rfl⟩
  · exact ⟨Bool.eq_false_iff.mpr entered, enter_persistent c opening⟩

/-- A new connection opens if the server accepts. -/
theorem openUp_new (opening : Opening) :
    new.openUp opening =
      if opening.accepted then (⟨.connected, true, true⟩, true) else (new, false) := by
  obtain ⟨created, accepted, again⟩ := opening
  cases accepted <;> rfl

end Connection

inductive Operation where
  | openUp (opening : Opening)
  | close (created : Bool)
  | enter (opening : Opening)
  | exit
  | send (sent : Bool)
  | receive (received : Option Bytes)

def step (c : Connection) : Operation → Connection
  | .openUp opening => (c.openUp opening).1
  | .close created => c.close created
  | .enter opening => c.enter opening
  | .exit => c.exit
  | .send _ => c
  | .receive received => (c.receive received).1

/-- `is_open` tells of the socket, and only an open connection is persistent. -/
structure Consistent (c : Connection) : Prop where
  connected : c.isOpen = true ↔ c.socket = .connected
  persistent : c.persistent = true → c.isOpen = true

/-- No `receive` fails on an open connection. -/
def Meets (c : Connection) : Operation → Prop
  | .receive none => c.isOpen = false
  | _ => True

theorem Consistent.new : Consistent Connection.new where
  connected := by decide
  persistent := nofun

/-- The three fields of a consistent connection are in one of four positions. -/
theorem consistent_iff (c : Connection) :
    Consistent c ↔ c = ⟨.connected, true, true⟩ ∨ c = ⟨.connected, true, false⟩ ∨
      c = ⟨.fresh, false, false⟩ ∨ c = ⟨.closed, false, false⟩ := by
  constructor
  · rintro ⟨connected, persistent⟩
    obtain ⟨socket, isOpen, kept⟩ := c
    cases socket <;> cases isOpen <;> cases kept <;> simp_all
  · rintro (rfl | rfl | rfl | rfl) <;> exact ⟨by decide, by decide⟩

/-- The step: every operation but a failing `receive` keeps the fields together. -/
theorem consistent_step_iff (c : Connection) (operation : Operation) (consistent : Consistent c) :
    Consistent (step c operation) ↔ Meets c operation := by
  have positions := (consistent_iff c).mp consistent
  cases operation with
  | openUp opening =>
    refine iff_of_true ?_ trivial
    obtain ⟨created, accepted, again⟩ := opening
    apply (consistent_iff _).mpr
    rcases positions with rfl | rfl | rfl | rfl <;> cases created <;> cases accepted <;>
      cases again <;> decide
  | close created =>
    refine iff_of_true ?_ trivial
    apply (consistent_iff _).mpr
    rcases positions with rfl | rfl | rfl | rfl <;> cases created <;> decide
  | enter opening =>
    refine iff_of_true ?_ trivial
    obtain ⟨created, accepted, again⟩ := opening
    apply (consistent_iff _).mpr
    rcases positions with rfl | rfl | rfl | rfl <;> cases created <;> cases accepted <;>
      cases again <;> decide
  | exit =>
    refine iff_of_true ?_ trivial
    apply (consistent_iff _).mpr
    rcases positions with rfl | rfl | rfl | rfl <;> decide
  | send sent => exact iff_of_true consistent trivial
  | receive received =>
    cases received with
    | some data =>
      refine iff_of_true ?_ trivial
      rcases positions with rfl | rfl | rfl | rfl <;> exact consistent
    | none =>
      rcases positions with rfl | rfl | rfl | rfl
      · exact iff_of_false (fun after => absurd (after.connected.mpr rfl) (by decide)) nofun
      · exact iff_of_false (fun after => absurd (after.connected.mpr rfl) (by decide)) nofun
      · exact iff_of_true consistent rfl
      · exact iff_of_true consistent rfl

end SchunkFts.Library.Control
