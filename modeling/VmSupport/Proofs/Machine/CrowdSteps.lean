import VmSupport.Machine.Crowd
import VmSupport.Proofs.Heap.Reservation
import VmSupport.Proofs.Heap.SharedSteps

/-!
# One action of a call in a process

A call in a process of many threads goes through frames. What a frame knows depends on the place of
the heap, `Machine.heap`, which others may fill in the meantime; but they can do so only under the
lock, and a heap that is in place stays there and only hands out more. `Frame.Sound` says what is
known at each frame.

**The actions** (`Frame.begin_moves`, `Frame.step_moves`): from a sound frame, an action of a call
is one of the `Frame.Moves`, which list all that a call can do to itself, to the place of the heap
and to the lock. In particular the two tests behind the first one never fail: a heap that is about
to be put in place finds the place empty, and the look-up after that finds the heap.

**Two marks** of a frame matter to other calls. A frame is *critical* while its call has the lock,
and it *has installed* once its call has put the heap in place. A move changes them only together
with the lock (`Moves.lock_cases`) and with the place of the heap (`Moves.install_cases`).
-/

namespace VmSupport

open Heap (HeapError Shared Stage)

/-- Surroundings in which memory is ample, and nothing is set. -/
def Surroundings.quiet : Surroundings :=
  { host := .ample, environment := fun _ => none, current := [], patterns := fun _ => true }

/-! ## Calls -/

namespace Call

/-- A call that is to put a heap in place. -/
def isStart : Call → Bool
  | init _ | bootstrap _ | start _ | startDefault => true
  | _ => false

/-- A call that asks for memory. -/
def isRequest : Call → Bool
  | allocate _ | allocateChecked _ _ => true
  | _ => false

/-- The call wants a heap of this capacity in place. A start from outside puts its capacity together
first, so there it may be any. -/
def Wants (caller : InitCaller) (capacity : Nat) : Call → Prop
  | init c => caller = .library ∧ capacity = c
  | bootstrap s => caller = .library ∧ capacity = s.capacity
  | start _ | startDefault => caller = .outside
  | _ => False

/-- The call asks the heap for a block of this size. -/
def Asks (caller : BlockCaller) (size : Int32) : Call → Prop
  | allocate s => caller = .plain ∧ s = size
  | allocateChecked isNull s => caller = .checked ∧ isNull = false ∧ s = size
  | _ => False

/-- The call neither touches the log's filter nor computes, so there is nothing in it that could
fault. -/
def neverFaults : Call → Bool
  | init _ | allocate _ | allocateChecked _ _ => true
  | _ => false

theorem Wants.isStart {call : Call} {caller : InitCaller} {capacity : Nat}
    (h : call.Wants caller capacity) : call.isStart = true := by
  cases call with
  | init _ | bootstrap _ | start _ | startDefault => rfl
  | _ => exact h.elim

/-- A call wants a heap for one caller. -/
theorem Wants.caller_eq {call : Call} {caller caller' : InitCaller} {capacity capacity' : Nat}
    (h : call.Wants caller capacity) (h' : call.Wants caller' capacity') : caller = caller' := by
  cases call with
  | init _ => exact h.1.trans h'.1.symm
  | bootstrap _ => exact h.1.trans h'.1.symm
  | start _ => exact Eq.trans h (Eq.symm h')
  | startDefault => exact Eq.trans h (Eq.symm h')
  | _ => exact h.elim

/-- A call of the library says itself which capacity it wants. -/
theorem Wants.capacity_eq {call : Call} {capacity capacity' : Nat}
    (h : call.Wants .library capacity) (h' : call.Wants .library capacity') :
    capacity = capacity' := by
  cases call with
  | init _ => exact h.2.trans h'.2.symm
  | bootstrap _ => exact h.2.trans h'.2.symm
  | start _ => cases h
  | startDefault => cases h
  | _ => exact h.elim

theorem Asks.isRequest {call : Call} {caller : BlockCaller} {size : Int32}
    (h : call.Asks caller size) : call.isRequest = true := by
  cases call with
  | allocate _ | allocateChecked _ _ => rfl
  | _ => exact h.elim

theorem isStart_of_isRequest {call : Call} (h : call.isRequest = true) : call.isStart = false := by
  cases call with
  | allocate _ | allocateChecked _ _ => rfl
  | _ => cases h

end Call

/-! ## Answers -/

namespace Answer

/-- The answer of a start that put the heap in place. -/
def isSuccess : Answer → Bool
  | started (.ok _) | status .ok => true
  | _ => false

theorem isSuccess_started (result : Except HeapError Nat) :
    (started result).isSuccess = result.isOk := by
  cases result <;> rfl

theorem isSuccess_status_of_ne {s : Status} (h : s ≠ .ok) : (status s).isSuccess = false := by
  cases s with
  | ok => exact absurd rfl h
  | _ => rfl

/-- The memory that an answer gives away: an address that is not zero, and the number of bytes
behind it that were asked for, rounded up. -/
def extent? : Call → Answer → Option (Nat × Nat)
  | .allocate size, number address =>
    if address = 0 then none else some (address, Heap.roundUp size)
  | .allocateChecked _ size, checked _ (some address) => some (address, Heap.roundUp size)
  | .heapBase, number address => if address = 0 then none else some (address, 0)
  | _, _ => none

/-- A start gives no memory away. -/
theorem extent?_of_isStart {call : Call} (h : call.isStart = true) (answer : Answer) :
    answer.extent? call = none := by
  cases call with
  | init _ | bootstrap _ | start _ | startDefault => rfl
  | _ => cases h

end Answer

/-- What a call that wanted a heap of this capacity in place may come to: it has put one there,
there was one already, or the host refused. -/
def StartHolds (w : Surroundings) (place : Option Shared) (capacity : Nat) :
    Except HeapError Nat → Prop
  | .ok size => size = capacity ∧ ∃ h, place = some h ∧ h.region.size = capacity
  | .error e => (e = .alreadyInitialized ∧ place.isSome = true) ∨
      Shared.withCapacity w.host capacity = .error e

/-- What the answer to a call says about the heap. -/
structure Answer.Holds (w : Surroundings) (place : Option Shared) (call : Call) (answer : Answer) :
    Prop where
  success : call.isStart = true → answer.isSuccess = true → place.isSome = true
  library : ∀ capacity, call.Wants .library capacity →
    ∃ result, answer = .started result ∧ StartHolds w place capacity result
  inside : ∀ address size, answer.extent? call = some (address, size) →
    ∃ h, place = some h ∧ h.region.base ≤ address ∧ address + size ≤ h.region.limit

/-- The place of the heap later on: a heap that was there still is, and has only handed out more. -/
def Grows (place place' : Option Shared) : Prop :=
  ∀ h, place = some h → ∃ h', place' = some h' ∧ h'.region = h.region ∧ h.cursor ≤ h'.cursor

namespace Grows

theorem refl (place : Option Shared) : Grows place place :=
  fun h hh => ⟨h, hh, rfl, Nat.le_refl _⟩

theorem of_none (place : Option Shared) : Grows none place :=
  fun _ hh => by cases hh

theorem trans {place place' place'' : Option Shared} (hg : Grows place place')
    (hg' : Grows place' place'') : Grows place place'' := by
  intro h hh
  obtain ⟨h', hh', hregion, hcursor⟩ := hg h hh
  obtain ⟨h'', hh'', hregion', hcursor'⟩ := hg' h' hh'
  exact ⟨h'', hh'', hregion'.trans hregion, Nat.le_trans hcursor hcursor'⟩

theorem isSome {place place' : Option Shared} (hg : Grows place place') (h : place.isSome = true) :
    place'.isSome = true := by
  obtain ⟨heap, hheap⟩ := Option.isSome_iff_exists.mp h
  obtain ⟨heap', hheap', -⟩ := hg heap hheap
  rw [hheap']
  rfl

end Grows

theorem StartHolds.isSome {w : Surroundings} {place : Option Shared} {capacity : Nat}
    {result : Except HeapError Nat} (h : StartHolds w place capacity result)
    (hok : result.isOk = true) : place.isSome = true := by
  cases result with
  | ok size =>
    obtain ⟨-, heap, hheap, -⟩ := h
    rw [hheap]
    rfl
  | error e => cases hok

theorem StartHolds.mono {w : Surroundings} {place place' : Option Shared} {capacity : Nat}
    {result : Except HeapError Nat} (h : StartHolds w place capacity result)
    (hg : Grows place place') : StartHolds w place' capacity result := by
  cases result with
  | ok size =>
    obtain ⟨hsize, heap, hheap, hcapacity⟩ := h
    obtain ⟨heap', hheap', hregion, -⟩ := hg heap hheap
    exact ⟨hsize, heap', hheap', hregion ▸ hcapacity⟩
  | error e =>
    obtain ⟨he, hsome⟩ | herror := h
    · exact .inl ⟨he, hg.isSome hsome⟩
    · exact .inr herror

theorem Answer.Holds.mono {w : Surroundings} {place place' : Option Shared} {call : Call}
    {answer : Answer} (h : answer.Holds w place call) (hg : Grows place place') :
    answer.Holds w place' call where
  success := fun hstart hsuccess => hg.isSome (h.success hstart hsuccess)
  library := by
    intro capacity hwants
    obtain ⟨result, hanswer, hresult⟩ := h.library capacity hwants
    exact ⟨result, hanswer, hresult.mono hg⟩
  inside := by
    intro address size hextent
    obtain ⟨heap, hheap, hle, hlimit⟩ := h.inside address size hextent
    obtain ⟨heap', hheap', hregion, -⟩ := hg heap hheap
    exact ⟨heap', hheap', hregion.symm ▸ hle, hregion.symm ▸ hlimit⟩

/-! ## Frames -/

namespace Frame

/-- A frame whose call has the lock. -/
def isCritical : Frame → Bool
  | check .. | reserve .. | set .. | confirm .. | unlock .. => true
  | _ => false

/-- A frame whose call has come to its end. -/
def isOver : Frame → Bool
  | answered _ | aborted | faulted _ => true
  | _ => false

/-- A frame whose call has put the heap in place. -/
def hasInstalled (call : Call) : Frame → Bool
  | confirm .. => true
  | unlock _ result | finish _ result => result.isOk
  | answered answer => call.isStart && answer.isSuccess
  | _ => false

/-- What a call knows at its frame. -/
def Sound (w : Surroundings) (place : Option Shared) (call : Call) : Frame → Prop
  | lock caller capacity | check caller capacity => call.Wants caller capacity
  | reserve caller capacity => call.Wants caller capacity ∧ place = none
  | set caller h => call.Wants caller h.region.size ∧ place = none ∧ h.Sound
  | confirm caller h => call.Wants caller h.region.size ∧
      ∃ found, place = some found ∧ found.region = h.region
  | unlock caller result | finish caller result =>
    ∃ capacity, call.Wants caller capacity ∧ StartHolds w place capacity result
  | find caller size => call.Asks caller size
  | serve caller stage => ∃ size h, call.Asks caller size ∧ place = some h ∧ stage.Sound h size
  | answered answer => answer.Holds w place call
  | aborted | faulted _ => call.neverFaults = false

/-- What a call knows stays true while others act, as long as none of them puts a heap in place
while this one has the lock. -/
theorem Sound.mono {w : Surroundings} {place place' : Option Shared} {call : Call} {f : Frame}
    (hf : f.Sound w place call) (hg : Grows place place')
    (hlock : f.isCritical = true → place = none → place' = none) : f.Sound w place' call := by
  cases f with
  | lock caller capacity => exact hf
  | check caller capacity => exact hf
  | reserve caller capacity => exact ⟨hf.1, hlock rfl hf.2⟩
  | set caller h => exact ⟨hf.1, hlock rfl hf.2.1, hf.2.2⟩
  | confirm caller h =>
    obtain ⟨hwants, found, hfound, hregion⟩ := hf
    obtain ⟨found', hfound', hregion', -⟩ := hg found hfound
    exact ⟨hwants, found', hfound', hregion'.trans hregion⟩
  | unlock caller result =>
    obtain ⟨capacity, hwants, hresult⟩ := hf
    exact ⟨capacity, hwants, hresult.mono hg⟩
  | finish caller result =>
    obtain ⟨capacity, hwants, hresult⟩ := hf
    exact ⟨capacity, hwants, hresult.mono hg⟩
  | find caller size => exact hf
  | serve caller stage =>
    obtain ⟨size, heap, hasks, hheap, hstage⟩ := hf
    obtain ⟨heap', hheap', hregion, hcursor⟩ := hg heap hheap
    exact ⟨size, heap', hasks, hheap', hstage.mono hcursor hregion⟩
  | answered answer => exact Answer.Holds.mono hf hg
  | aborted => exact hf
  | faulted f => exact hf

/-- Only a start takes the lock or installs a heap. -/
theorem Sound.isStart {w : Surroundings} {place : Option Shared} {call : Call} {f : Frame}
    (hf : f.Sound w place call) (h : f.isCritical = true ∨ f.hasInstalled call = true) :
    call.isStart = true := by
  cases f with
  | check caller capacity => exact Call.Wants.isStart hf
  | reserve caller capacity => exact hf.1.isStart
  | set caller heap => exact hf.1.isStart
  | confirm caller heap => exact hf.1.isStart
  | unlock caller result =>
    obtain ⟨capacity, hwants, -⟩ := hf
    exact hwants.isStart
  | finish caller result =>
    obtain ⟨capacity, hwants, -⟩ := hf
    exact hwants.isStart
  | answered answer =>
    obtain hcritical | hinstalled := h
    · cases hcritical
    · exact (Bool.and_eq_true_iff.mp hinstalled).1
  | _ =>
    obtain hcritical | hinstalled := h
    · cases hcritical
    · cases hinstalled

/-- What one action of a call can do: the frame before, none if it begins the call, the frame after,
the place of the heap after, and whether the lock is taken after. -/
inductive Moves (w : Surroundings) (call : Call) (place : Option Shared) (locked : Bool) :
    Option Frame → Frame → Option Shared → Bool → Prop
  | begin {frame : Frame} (hsound : frame.Sound w place call) (hcritical : frame.isCritical = false)
    (hnot : frame.hasInstalled call = false) :
    Moves w call place locked none frame place locked
  | wait {caller : InitCaller} {capacity : Nat} (hwants : call.Wants caller capacity)
    (hlocked : locked = true) :
    Moves w call place locked (some (.lock caller capacity)) (.lock caller capacity) place locked
  | acquire {caller : InitCaller} {capacity : Nat} (hwants : call.Wants caller capacity)
    (hfree : locked = false) :
    Moves w call place locked (some (.lock caller capacity)) (.check caller capacity) place true
  /-- There is a heap already. -/
  | refuse {caller : InitCaller} {capacity : Nat} (hwants : call.Wants caller capacity)
    (hplace : place.isSome = true) :
    Moves w call place locked (some (.check caller capacity))
      (.unlock caller (.error .alreadyInitialized)) place locked
  | proceed {caller : InitCaller} {capacity : Nat} (hwants : call.Wants caller capacity)
    (hplace : place = none) :
    Moves w call place locked (some (.check caller capacity)) (.reserve caller capacity) place
      locked
  /-- The host has no such block. -/
  | fail {caller : InitCaller} {capacity : Nat} {e : HeapError}
    (hwants : call.Wants caller capacity)
    (herror : Shared.withCapacity w.host capacity = .error e) :
    Moves w call place locked (some (.reserve caller capacity)) (.unlock caller (.error e)) place
      locked
  | reserve {caller : InitCaller} {capacity : Nat} {h : Shared}
    (hwants : call.Wants caller capacity) (hplace : place = none)
    (hheap : Shared.withCapacity w.host capacity = .ok h) :
    Moves w call place locked (some (.reserve caller capacity)) (.set caller h) place locked
  | install {caller : InitCaller} {h : Shared} (hwants : call.Wants caller h.region.size)
    (hplace : place = none) (hheap : h.Sound) :
    Moves w call place locked (some (.set caller h)) (.confirm caller h) (some h) locked
  | confirm {caller : InitCaller} {h found : Shared} (hwants : call.Wants caller found.region.size)
    (hplace : place = some found) :
    Moves w call place locked (some (.confirm caller h)) (.unlock caller (.ok found.region.size))
      place locked
  | release {caller : InitCaller} {capacity : Nat} {result : Except HeapError Nat}
    (hwants : call.Wants caller capacity) (hresult : StartHolds w place capacity result) :
    Moves w call place locked (some (.unlock caller result)) (.finish caller result) place false
  | reply {caller : InitCaller} {result : Except HeapError Nat} {answer : Answer}
    (hstart : call.isStart = true) (hsuccess : answer.isSuccess = result.isOk)
    (hholds : answer.Holds w place call) :
    Moves w call place locked (some (.finish caller result)) (.answered answer) place locked
  | find {caller : BlockCaller} {size : Int32} {h : Shared} (hasks : call.Asks caller size)
    (hplace : place = some h) :
    Moves w call place locked (some (.find caller size)) (.serve caller (.start size)) place locked
  /-- There is no heap to ask. -/
  | deny {caller : BlockCaller} {size : Int32} {answer : Answer} (hasks : call.Asks caller size)
    (hholds : answer.Holds w place call) :
    Moves w call place locked (some (.find caller size)) (.answered answer) place locked
  | serve {caller : BlockCaller} {size : Int32} {spurious : Bool} {stage stage' : Stage}
    {h h' : Shared} (hasks : call.Asks caller size) (hplace : place = some h)
    (hstage : stage.Sound h size) (hmoves : Stage.Moves h size spurious stage stage' h') :
    Moves w call place locked (some (.serve caller stage)) (.serve caller stage') (some h') locked
  | deliver {caller : BlockCaller} {size : Int32} {result : Except HeapError Heap.Handle}
    {answer : Answer} (hasks : call.Asks caller size) (hholds : answer.Holds w place call) :
    Moves w call place locked (some (.serve caller (.returned result))) (.answered answer) place
      locked
  /-- A call that has ended stays as it is. -/
  | rest {frame : Frame} (hsound : frame.Sound w place call) :
    Moves w call place locked (some frame) frame place locked

namespace Moves

variable {w : Surroundings} {call : Call} {place place' : Option Shared} {locked locked' : Bool}
  {old : Option Frame} {new : Frame}

/-- A heap that is in place stays there. -/
theorem grows (hm : Moves w call place locked old new place' locked') : Grows place place' := by
  cases hm with
  | install hwants hplace hheap => exact hplace ▸ Grows.of_none _
  | @serve _ _ _ _ _ h h' hasks hplace hstage hmoves =>
    intro heap hheap
    obtain rfl : h = heap := Option.some.inj (hplace.symm.trans hheap)
    exact ⟨h', rfl, hmoves.region_eq, hmoves.cursor_le⟩
  | _ => exact Grows.refl _

/-- The heap in place is as it should be. -/
theorem place_sound (hm : Moves w call place locked old new place' locked')
    (hplace : ∀ h, place = some h → h.Sound) : ∀ h, place' = some h → h.Sound := by
  intro heap hheap
  cases hm with
  | install hwants hnone hsound =>
    cases hheap
    exact hsound
  | serve hasks hsome hstage hmoves =>
    cases hheap
    exact hmoves.heap_sound (hplace _ hsome)
  | _ => exact hplace heap hheap

/-- The call knows at its new frame what it should. -/
theorem sound (hm : Moves w call place locked old new place' locked') :
    new.Sound w place' call := by
  cases hm with
  | begin hsound hcritical hnot => exact hsound
  | wait hwants hlocked => exact hwants
  | acquire hwants hfree => exact hwants
  | refuse hwants hplace => exact ⟨_, hwants, .inl ⟨rfl, hplace⟩⟩
  | proceed hwants hplace => exact ⟨hwants, hplace⟩
  | fail hwants herror => exact ⟨_, hwants, .inr herror⟩
  | reserve hwants hplace hheap =>
    obtain ⟨r, hsize, rfl⟩ := Shared.withCapacity_eq_ok hheap
    exact ⟨hsize.symm ▸ hwants, hplace, Heap.Shared.sound_ofRegion r⟩
  | install hwants hplace hheap => exact ⟨hwants, _, rfl, rfl⟩
  | confirm hwants hplace => exact ⟨_, hwants, rfl, _, hplace, rfl⟩
  | release hwants hresult => exact ⟨_, hwants, hresult⟩
  | reply hstart hsuccess hholds => exact hholds
  | find hasks hplace => exact ⟨_, _, hasks, hplace, rfl⟩
  | deny hasks hholds => exact hholds
  | serve hasks hplace hstage hmoves => exact ⟨_, _, hasks, rfl, hmoves.sound hstage⟩
  | deliver hasks hholds => exact hholds
  | rest hsound => exact hsound

/-- A call becomes critical as it takes the lock, and stays so until it gives the lock back. -/
theorem lock_cases (hm : Moves w call place locked old new place' locked') :
    (locked' = locked ∧ new.isCritical = (old.map isCritical).getD false) ∨
    (locked = false ∧ locked' = true ∧ new.isCritical = true) ∨
    (locked' = false ∧ (old.map isCritical).getD false = true ∧ new.isCritical = false) := by
  cases hm with
  | begin hsound hcritical hnot => exact .inl ⟨rfl, hcritical⟩
  | acquire hwants hfree => exact .inr (.inl ⟨hfree, rfl, rfl⟩)
  | release hwants hresult => exact .inr (.inr ⟨rfl, rfl, rfl⟩)
  | _ => exact .inl ⟨rfl, rfl⟩

/-- A call has installed from the moment on at which it fills the place of the heap. -/
theorem install_cases (hm : Moves w call place locked old new place' locked') :
    (place'.isSome = place.isSome ∧
      new.hasInstalled call = (old.map (hasInstalled call)).getD false) ∨
    (place = none ∧ place'.isSome = true ∧ (old.map isCritical).getD false = true ∧
      new.hasInstalled call = true) := by
  cases hm with
  | begin hsound hcritical hnot => exact .inl ⟨rfl, hnot⟩
  | install hwants hplace hheap => exact .inr ⟨hplace, rfl, rfl, rfl⟩
  | reply hstart hsuccess hholds =>
    refine .inl ⟨rfl, ?_⟩
    show (call.isStart && _) = _
    rw [hstart, hsuccess]
    rfl
  | deny hasks hholds =>
    refine .inl ⟨rfl, ?_⟩
    show (call.isStart && _) = _
    rw [Call.isStart_of_isRequest hasks.isRequest]
    rfl
  | deliver hasks hholds =>
    refine .inl ⟨rfl, ?_⟩
    show (call.isStart && _) = _
    rw [Call.isStart_of_isRequest hasks.isRequest]
    rfl
  | serve hasks hplace hstage hmoves => exact .inl ⟨by rw [hplace]; rfl, rfl⟩
  | _ => exact .inl ⟨rfl, rfl⟩

/-- Once there is a heap, only a request for memory touches it. -/
theorem place_eq (hm : Moves w call place locked old new place' locked')
    (hplace : place.isSome = true) (hcall : call.isRequest = false) : place' = place := by
  cases hm with
  | install hwants hnone hheap =>
    rw [hnone] at hplace
    cases hplace
  | serve hasks hsome hstage hmoves =>
    rw [hasks.isRequest] at hcall
    cases hcall
  | _ => rfl

end Moves

/-! ## Actions -/

section

variable {w : Surroundings} {call : Call} {m : Machine}

/-- The answer to a call that wanted a heap in place. -/
theorem answerInit_spec (thread : Nat) {caller : InitCaller} {result : Except HeapError Nat}
    {capacity : Nat} (hwants : call.Wants caller capacity)
    (hresult : StartHolds w m.heap capacity result) :
    ∃ answer m', answerInit thread m result caller = (.answered answer, m') ∧ m'.heap = m.heap ∧
      answer.isSuccess = result.isOk ∧ answer.Holds w m.heap call := by
  have hinside : ∀ answer : Answer, answer.extent? call = none :=
    Answer.extent?_of_isStart hwants.isStart
  cases caller with
  | library =>
    have hsuccess := Answer.isSuccess_started result
    refine ⟨.started result, m, rfl, rfl, hsuccess, ?_, ?_, ?_⟩
    · exact fun _ h => hresult.isSome (hsuccess ▸ h)
    · intro capacity' hwants'
      exact ⟨result, rfl, hwants.capacity_eq hwants' ▸ hresult⟩
    · intro address size hextent
      rw [hinside] at hextent
      cases hextent
  | outside =>
    have hlibrary : ∀ capacity', ¬ call.Wants .library capacity' := fun _ h => by
      cases hwants.caller_eq h
    obtain ⟨status, m', heq, hm', hsuccess⟩ : ∃ status m',
        answerInit thread m result .outside = (.answered (.status status), m') ∧ m'.heap = m.heap ∧
          (Answer.status status).isSuccess = result.isOk := by
      cases result with
      | ok size => exact ⟨.ok, _, rfl, rfl, rfl⟩
      | error e =>
        refine ⟨.ofHeapError e, _, rfl, rfl, ?_⟩
        cases e <;> rfl
    refine ⟨.status status, m', heq, hm', hsuccess, ?_, ?_, ?_⟩
    · exact fun _ h => hresult.isSome (hsuccess ▸ h)
    · exact fun capacity' h => absurd h (hlibrary capacity')
    · intro address size hextent
      rw [hinside] at hextent
      cases hextent

/-- What the answer to a request says, as soon as its address lies in the heap. -/
theorem holds_of_isRequest {answer : Answer} (hcall : call.isRequest = true)
    (hinside : ∀ address size, answer.extent? call = some (address, size) →
      ∃ h, m.heap = some h ∧ h.region.base ≤ address ∧ address + size ≤ h.region.limit) :
    answer.Holds w m.heap call where
  success := by
    intro hstart
    rw [Call.isStart_of_isRequest hcall] at hstart
    cases hstart
  library := by
    intro capacity hwants
    have hstart := hwants.isStart
    rw [Call.isStart_of_isRequest hcall] at hstart
    cases hstart
  inside := hinside

/-- The answer to a call that asked for memory. -/
theorem answerBlock_spec (thread : Nat) {caller : BlockCaller} {size : Int32}
    (result : Except HeapError Nat) (hasks : call.Asks caller size)
    (hresult : ∀ address, result = .ok address → ∃ h, m.heap = some h ∧ h.region.base ≤ address ∧
      address + Heap.roundUp size ≤ h.region.limit) :
    ∃ answer m', answerBlock thread m result caller = (.answered answer, m') ∧ m'.heap = m.heap ∧
      answer.Holds w m.heap call := by
  refine ⟨_, _, rfl, rfl, holds_of_isRequest hasks.isRequest ?_⟩
  intro address bytes hextent
  cases call with
  | allocate s =>
    obtain ⟨rfl, rfl⟩ := hasks
    cases result with
    | error e => cases hextent
    | ok a =>
      simp only [Answer.extent?] at hextent
      split at hextent
      · cases hextent
      · cases hextent
        exact hresult _ rfl
  | allocateChecked isNull s =>
    obtain ⟨rfl, rfl, rfl⟩ := hasks
    cases result with
    | error e => cases hextent
    | ok a =>
      cases hextent
      exact hresult _ rfl
  | _ => exact hasks.elim

/-- A request that has come to its end is answered. -/
theorem returned_moves {caller : BlockCaller} {size : Int32} {h : Shared}
    {result : Except HeapError Heap.Handle} (hsound : h.Sound) (hasks : call.Asks caller size)
    (hh : m.heap = some h) (hstage : (Stage.returned result).Sound h size) (thread : Nat)
    (spurious : Bool) (lockedBy : Option Nat) :
    let s := (Frame.serve caller (.returned result)).step w thread spurious m lockedBy
    Moves w call m.heap lockedBy.isSome (some (.serve caller (.returned result))) s.frame
      s.machine.heap s.lockedBy.isSome := by
  cases result with
  | error e =>
    obtain ⟨answer, m', heq, hm', hholds⟩ := answerBlock_spec (w := w) (m := m) thread (.error e)
      hasks (fun address h => by cases h)
    simp only [step, hh, heq, hm']
    exact .deliver hasks (hh ▸ hholds)
  | ok handle =>
    obtain ⟨-, hend⟩ := hstage handle rfl
    have hcursor := hsound.2
    have hregion := h.region.fits
    have haddress : Fault.addWords h.region.base handle.offset =
        .ok (h.region.base + handle.offset) :=
      Fault.addWords_of_lt (by omega)
    obtain ⟨answer, m', heq, hm', hholds⟩ := answerBlock_spec (w := w) (m := m) thread
      (.ok (h.region.base + handle.offset)) hasks (by
        intro address heq
        cases heq
        refine ⟨h, hh, Nat.le_add_right _ _, ?_⟩
        rw [Heap.Region.limit]
        omega)
    simp only [step, hh, haddress, heq, hm']
    exact .deliver hasks (hh ▸ hholds)

/-- A request that is being served takes one of its steps, or is answered. -/
theorem serve_moves {caller : BlockCaller} {stage : Stage} (hheap : ∀ h, m.heap = some h → h.Sound)
    (hf : (Frame.serve caller stage).Sound w m.heap call) (thread : Nat) (spurious : Bool)
    (lockedBy : Option Nat) :
    let s := (Frame.serve caller stage).step w thread spurious m lockedBy
    Moves w call m.heap lockedBy.isSome (some (.serve caller stage)) s.frame s.machine.heap
      s.lockedBy.isSome := by
  obtain ⟨size, h, hasks, hh, hstage⟩ := hf
  have hmoves := Stage.step_moves (hheap h hh) hstage spurious
  have hserve := @Moves.serve w call _ lockedBy.isSome _ _ _ _ _ _ _ hasks hh hstage hmoves
  cases stage with
  | returned result => exact returned_moves (hheap h hh) hasks hh hstage thread spurious lockedBy
  | faulted fault => exact hstage.elim
  | _ =>
    simp only [step, hh, Machine.reportAll_heap, Machine.withHeap]
    exact hh ▸ hserve

/-- **An action of a call at a sound frame is one of the moves.** -/
theorem step_moves {f : Frame} (hheap : ∀ h, m.heap = some h → h.Sound)
    (hf : f.Sound w m.heap call) (thread : Nat) (spurious : Bool) (lockedBy : Option Nat) :
    let s := f.step w thread spurious m lockedBy
    Moves w call m.heap lockedBy.isSome (some f) s.frame s.machine.heap s.lockedBy.isSome := by
  cases f with
  | lock caller capacity =>
    cases lockedBy with
    | none => exact .acquire hf rfl
    | some other => exact .wait hf rfl
  | check caller capacity =>
    cases hm : m.heap with
    | none =>
      simp only [step, hm]
      exact .proceed hf rfl
    | some h =>
      simp only [step, hm]
      exact .refuse hf rfl
  | reserve caller capacity =>
    obtain ⟨hwants, hplace⟩ := hf
    simp only [step]
    cases hcapacity : Shared.withCapacity w.host capacity with
    | error e => exact .fail hwants hcapacity
    | ok h => exact .reserve hwants hplace hcapacity
  | set caller h =>
    obtain ⟨hwants, hplace, hsound⟩ := hf
    simp only [step, hplace]
    exact .install hwants rfl hsound
  | confirm caller h =>
    obtain ⟨hwants, found, hfound, hregion⟩ := hf
    simp only [step, Machine.report_heap, hfound]
    exact .confirm (hregion.symm ▸ hwants) rfl
  | unlock caller result =>
    obtain ⟨capacity, hwants, hresult⟩ := hf
    exact .release hwants hresult
  | finish caller result =>
    obtain ⟨capacity, hwants, hresult⟩ := hf
    obtain ⟨answer, m', heq, hm', hsuccess, hholds⟩ := answerInit_spec thread hwants hresult
    simp only [step, heq, hm']
    exact .reply hwants.isStart hsuccess hholds
  | find caller size =>
    cases hm : m.heap with
    | none =>
      obtain ⟨answer, m', heq, hm', hholds⟩ := answerBlock_spec (w := w) (m := m) thread
        (.error .notInitialized) hf (fun address h => by cases h)
      simp only [step, hm, heq, hm']
      exact .deny hf (hm ▸ hholds)
    | some h =>
      simp only [step, hm]
      exact .find hf rfl
  | serve caller stage => exact serve_moves hheap hf thread spurious lockedBy
  | answered answer => exact .rest hf
  | aborted => exact .rest hf
  | faulted fault => exact .rest hf

/-! ## First actions -/

theorem installLog_heap {held : Bool} {log : LogSettings} {b : Bool} {m' : Machine}
    (h : Machine.installLog w held log m = .ok (b, m')) : m'.heap = m.heap := by
  unfold Machine.installLog at h
  split at h
  · cases h
    rfl
  split at h
  · cases h
  · cases h
    exact Machine.reportAll_heap m _

/-- The frame at which a call begins. -/
structure Begins (w : Surroundings) (call : Call) (m : Machine) (s : Frame × Machine) : Prop where
  heap : s.2.heap = m.heap
  sound : s.1.Sound w m.heap call
  notCritical : s.1.isCritical = false
  notInstalled : s.1.hasInstalled call = false

theorem begins_lock {caller : InitCaller} {capacity : Nat} (hwants : call.Wants caller capacity)
    {m' : Machine} (hm : m'.heap = m.heap) : Begins w call m (.lock caller capacity, m') :=
  ⟨hm, hwants, rfl, rfl⟩

/-- A start that begins with the log goes on to the lock, unless the log faults. -/
theorem begins_afterLog {caller : InitCaller} {held : Bool} {log : LogSettings} {capacity : Nat}
    {m' : Machine} (hwants : call.Wants caller capacity) (hfault : call.neverFaults = false)
    (hm : m'.heap = m.heap) :
    Begins w call m (afterLog caller capacity m' (Machine.installLog w held log m')) := by
  cases hlog : Machine.installLog w held log m' with
  | error fault =>
    cases caller with
    | library => exact ⟨hm, hfault, rfl, rfl⟩
    | outside => exact ⟨hm, hfault, rfl, rfl⟩
  | ok result => exact begins_lock hwants ((installLog_heap hlog).trans hm)

/-- The calls of one action do nothing to the heap. -/
theorem call_heap (thread : Nat) (hstart : call.isStart = false)
    (hrequest : call.isRequest = false) : (m.call w thread call).2.heap = m.heap := by
  cases call with
  | init _ | bootstrap _ | start _ | startDefault => cases hstart
  | allocate _ | allocateChecked _ _ => cases hrequest
  | shutdown =>
    simp only [Machine.call, Machine.shutdown]
    split
    · rfl
    · split <;> rfl
  | long memory c =>
    simp only [Machine.call, Machine.long]
    split <;> rfl
  | discover => exact Machine.reportAll_heap m _
  | installLog log =>
    simp only [Machine.call]
    split
    · next heq => exact installLog_heap heq
    · rfl
  | _ => rfl

/-- The base that is answered is that of the heap in place. -/
theorem heapBase_inside {address size : Nat}
    (h : Answer.extent? .heapBase (.number m.heapBase) = some (address, size)) :
    ∃ heap, m.heap = some heap ∧ heap.region.base ≤ address ∧
      address + size ≤ heap.region.limit := by
  simp only [Answer.extent?] at h
  split at h
  · cases h
  · next hne =>
    cases h
    cases hm : m.heap with
    | none => exact absurd (by rw [Machine.heapBase, hm]) hne
    | some heap =>
      rw [Machine.heapBase, hm]
      exact ⟨heap, rfl, Nat.le_refl _, Nat.le_add_right _ _⟩

theorem begins_call (w : Surroundings) (thread : Nat) (m : Machine) {call : Call}
    (hstart : call.isStart = false) (hrequest : call.isRequest = false) :
    Begins w call m (match m.call w thread call with
      | (.returned a, m) => (.answered a, m)
      | (.aborted, m) => (.aborted, m)
      | (.faulted f, m) => (.faulted f, m)) := by
  have hheap := call_heap (w := w) (m := m) thread hstart hrequest
  have hfault : call.neverFaults = false := by
    cases call with
    | init _ => cases hstart
    | allocate _ | allocateChecked _ _ => cases hrequest
    | _ => rfl
  have hinside : ∀ answer, (m.call w thread call).1 = .returned answer →
      ∀ address size, answer.extent? call = some (address, size) → ∃ h, m.heap = some h ∧
        h.region.base ≤ address ∧ address + size ≤ h.region.limit := by
    intro answer hanswer address size hextent
    cases call with
    | allocate _ | allocateChecked _ _ => cases hrequest
    | heapBase =>
      cases hanswer
      exact heapBase_inside hextent
    | _ => cases hextent
  generalize m.call w thread call = s at hheap hinside
  obtain ⟨outcome, m'⟩ := s
  cases outcome with
  | returned answer =>
    refine ⟨hheap, ⟨?_, ?_, hinside answer rfl⟩, rfl, ?_⟩
    · intro h
      rw [hstart] at h
      cases h
    · intro capacity hwants
      rw [hwants.isStart] at hstart
      cases hstart
    · show (call.isStart && _) = false
      rw [hstart]
      rfl
  | aborted => exact ⟨hheap, hfault, rfl, rfl⟩
  | faulted fault => exact ⟨hheap, hfault, rfl, rfl⟩

/-- A start whose settings cannot be had is over at once, and no success. -/
theorem begins_refused (w : Surroundings) (thread capacity : Nat) (m : Machine) {status : Status}
    (hstatus : status ≠ .ok) (cause : String) :
    Begins w (.start capacity) m
      (.answered (.status (m.refuseStart thread status cause).1),
        (m.refuseStart thread status cause).2) := by
  have hsuccess := Answer.isSuccess_status_of_ne hstatus
  refine ⟨rfl, ⟨?_, ?_, ?_⟩, rfl, hsuccess⟩
  · intro _ h
    rw [show (Answer.status status).isSuccess = true from h] at hsuccess
    cases hsuccess
  · intro _ hwants
    cases hwants
  · intro _ _ hextent
    cases hextent

theorem startSettings_ne_ok {capacity : Nat} {status : Status} {cause : String}
    (h : Machine.startSettings w capacity = .error (status, cause)) : status ≠ .ok := by
  unfold Machine.startSettings at h
  split at h
  · cases h
    exact fun h => by cases h
  · split at h
    · cases h
    · split at h
      · cases h
        exact fun h => by cases h
      · cases h

/-- **The first action of a call** leaves the heap as it is, and the call at a sound frame. -/
theorem begin_begins (w : Surroundings) (thread : Nat) (m : Machine) (call : Call) :
    Begins w call m (begin w thread m call) := by
  cases call with
  | init capacity =>
    have hwants : (Call.init capacity).Wants .library capacity := ⟨rfl, rfl⟩
    exact begins_lock hwants rfl
  | bootstrap s =>
    have hwants : (Call.bootstrap s).Wants .library s.capacity := ⟨rfl, rfl⟩
    exact begins_afterLog hwants rfl rfl
  | start capacity =>
    simp only [begin]
    split
    · next heq => exact begins_refused w thread capacity m (startSettings_ne_ok heq) _
    · next s heq =>
      have hwants : (Call.start capacity).Wants .outside s.capacity := rfl
      exact begins_afterLog hwants rfl rfl
  | startDefault =>
    have hwants : Call.startDefault.Wants .outside (Machine.discover w m).1.capacity := rfl
    exact begins_afterLog hwants rfl (Machine.reportAll_heap m _)
  | allocate size => exact ⟨rfl, ⟨rfl, rfl⟩, rfl, rfl⟩
  | allocateChecked isNull size =>
    cases isNull with
    | false => exact ⟨rfl, ⟨rfl, rfl, rfl⟩, rfl, rfl⟩
    | true =>
      refine ⟨rfl, holds_of_isRequest rfl ?_, rfl, rfl⟩
      intro address bytes hextent
      cases hextent
  | _ => exact begins_call w thread m rfl rfl

/-- The first action of a call is one of the moves. -/
theorem begin_moves (w : Surroundings) (thread : Nat) (m : Machine) (call : Call) (locked : Bool) :
    Moves w call m.heap locked none (begin w thread m call).1 (begin w thread m call).2.heap
      locked := by
  obtain ⟨hheap, hsound, hcritical, hnot⟩ := begin_begins w thread m call
  rw [hheap]
  exact .begin hsound hcritical hnot

end

end Frame

end VmSupport
