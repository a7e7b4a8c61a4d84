import VmSupport.Proofs.Heap.RequestReports
import VmSupport.Proofs.Machine.CallEnds
import VmSupport.Proofs.Machine.Reported

/-!
# What a process reports about memory

The calls for memory report what the heap of the process reports, and no other call reports anything
about a request. A call that does not come to the heap, because there is none or because the pointer
of a checked call is null, says nothing about a request either.

**The law** (`requests_reported`): whoever serves the requests, a bump heap, a shared heap in the
hands of one thread, or the heap of a process behind its two calls for memory, each grant and each
request that did not fit is reported once and in order, with what was answered, and nothing else is.
So the reports are at any moment as many as the statistics say, and both kinds of heap report the
same about the same requests.

The proof keeps the episodes of the heap beside the process (`Machine.Documented`): what was reported
is what they report, and the numbers of the heap are those of their history.
-/

namespace VmSupport

open Heap (Announces Bump Episode Handle HeapError Shared countMessage episodes historyOf reportsOf)
/-- The event is about a request for memory. -/
def Log.Event.isAboutRequest : Log.Event → Bool
  | .allocated .. | .allocationFailed _ => true
  | _ => false

namespace Call

/-- The size of the request that the call has for the heap. A checked call with a null pointer has
none. -/
def request? : Call → Option Int32
  | allocate size => some size
  | allocateChecked false size => some size
  | _ => none

/-- The caller makes up an event about a request. -/
def makesUpReport : Call → Bool
  | report e => e.isAboutRequest
  | _ => false

/-- How a call for memory passes on what the heap answered, given the base of the heap. -/
def passOn (base : Nat) (answer : Except HeapError Handle) : Call → Answer
  | allocateChecked .. =>
    .checked (.ofResult answer) (answer.toOption.map fun handle => base + handle.offset)
  | _ => .number (answer.toOption.elim 0 fun handle => base + handle.offset)

end Call

namespace Machine

variable {w : Surroundings} {thread : Nat} {m m' : Machine} {c : Call} {es : List Episode}

/-! ## Calls without a request -/

/-- What was reported about requests so far. -/
def requestReports (m : Machine) : List Log.Event :=
  m.reported Log.Event.isAboutRequest

theorem not_isAboutRequest_of_isAboutStart :
    ∀ e : Log.Event, e.isAboutStart = true → e.isAboutRequest = false := by
  intro e h
  cases e with
  | allocated _ _ | allocationFailed _ => cases h
  | _ => rfl

theorem isAboutRequest_searchUp (place : Files.Place) :
    ∀ e ∈ (Settings.searchUp place).2, e.isAboutRequest = false := by
  induction place with
  | nil => exact fun e he => absurd he List.not_mem_nil
  | cons dir up ih =>
    obtain ⟨name, node⟩ := dir
    rw [Settings.searchUp]
    split
    · exact ih
    · split
      · exact fun e he => absurd he List.not_mem_nil
      · exact List.forall_mem_cons.mpr ⟨rfl, ih⟩

theorem discover_spares (w : Surroundings) (m : Machine) :
    Spares Log.Event.isAboutRequest m (discover w m).2 := by
  refine .reportAll (fun e he => ?_) m
  have hsearch := isAboutRequest_searchUp w.current
  split at he
  · exact hsearch e he
  · obtain he | he := List.mem_append.mp he
    · exact hsearch e he
    · obtain rfl := List.mem_singleton.mp he
      rfl

/-- **A call without a request** reports nothing about one. -/
theorem call_spares (w : Surroundings) (thread : Nat) (m : Machine)
    (hrequest : c.request? = none) (hreport : c.makesUpReport = false) :
    Spares Log.Event.isAboutRequest m (m.call w thread c).2 := by
  have habout := not_isAboutRequest_of_isAboutStart
  cases c with
  | allocate _ => cases hrequest
  | allocateChecked isNull size =>
    cases isNull with
    | false => cases hrequest
    | true => exact (Spares.report rfl m).record thread .invalidArgument
  | start capacity =>
    simp only [call, startWith]
    split
    · exact .refuseStart habout thread _ _ m
    · exact .start habout w thread _ m
  | startDefault => exact (discover_spares w m).trans (.start habout w thread _ _)
  | shutdown =>
    simp only [call, shutdown]
    split
    · exact .act rfl m
    · split
      · exact .refl m
      · exact (Spares.report rfl m).trans (.act rfl _)
  | flushLog => exact .act rfl m
  | init capacity => exact .init habout w capacity m
  | bootstrap s =>
    simp only [call]
    split
    · next hboot => exact .bootstrap habout hboot
    · exact .refl m
  | long memory call =>
    simp only [Machine.call, Machine.long]
    split
    · exact .refl m
    · exact .report rfl m
    · exact (Spares.report rfl m).trans (.act rfl _)
    · exact .refl m
  | discover => exact discover_spares w m
  | installLog log =>
    simp only [call]
    split
    · next hinstall => exact .installLog habout hinstall
    · exact .refl m
  | occupyLog => exact .act rfl m
  | report e => exact .report hreport m
  | heapBase | heapUsed | heapCapacity | lastStatus | stats | load _ | override _
  | isLogInstalled => exact .refl m

/-- The heap stays as it is, or a fresh one is put into the empty place. -/
def HeapStays (m m' : Machine) : Prop :=
  m'.heap = m.heap ∨ ∃ r, m.heap = none ∧ m'.heap = some (Shared.ofRegion r)

theorem Started.heapStays {capacity : Nat} {result : Except HeapError Nat}
    (h : Started w m capacity result m') : HeapStays m m' := by
  obtain ⟨-, hheap⟩ | ⟨heap, hnone, hh, -, hheap⟩ := h
  · exact .inl hheap
  · obtain ⟨r, -, rfl⟩ := Heap.Shared.withCapacity_eq_ok hh
    exact .inr ⟨r, hnone, hheap⟩

theorem start_heapStays (w : Surroundings) (thread : Nat) (s : Settings) (m : Machine) :
    HeapStays m (start w thread s m).2 := by
  obtain ⟨heq, -⟩ | ⟨result, m', heq, hstarted, -⟩ := start_cases w thread s m <;> rw [heq]
  · exact .inl rfl
  · exact hstarted.heapStays

/-- A call without a request does nothing else to the heap. -/
theorem call_heapStays (w : Surroundings) (thread : Nat) (m : Machine)
    (hrequest : c.request? = none) : HeapStays m (m.call w thread c).2 := by
  cases c with
  | allocate _ => cases hrequest
  | allocateChecked isNull size =>
    cases isNull with
    | false => cases hrequest
    | true => exact .inl rfl
  | init capacity =>
    obtain ⟨e, heq⟩ | ⟨h, m', hnone, hh, heq, hheap, -⟩ := init_cases w capacity m <;>
      simp only [call, heq]
    · exact .inl rfl
    · exact Started.heapStays (.inr ⟨h, hnone, hh, rfl, hheap⟩)
  | bootstrap s =>
    obtain ⟨fault, heq, -⟩ | ⟨result, m', heq, hstarted, -⟩ := bootstrap_cases w s m <;>
      simp only [call, heq]
    · exact .inl rfl
    · exact hstarted.heapStays
  | start capacity =>
    simp only [call, startWith]
    split
    · exact .inl rfl
    · exact start_heapStays w thread _ m
  | startDefault =>
    have hdiscover : (discover w m).2.heap = m.heap := reportAll_heap m _
    have hstart := start_heapStays w thread (discover w m).1 (discover w m).2
    rw [HeapStays, hdiscover] at hstart
    exact hstart
  | _ => exact .inl (Frame.call_heap thread rfl rfl)

/-! ## Calls with a request -/

/-- A request to a bump heap: the block is taken there, and what the heap reports is reported. -/
theorem takeBlock_eq {b : Bump} (hb : b.Sound) (hheap : m.heap = some b.shared) (size : Int32) :
    m.takeBlock size = .ok ((b.allocate size).answer.map b.region.addressOf,
      (m.withHeap (b.allocate size).heap.shared).reportAll (b.allocate size).events) := by
  unfold takeBlock
  rw [hheap]
  simp only [Bump.shared_allocate hb]
  cases hanswer : (b.allocate size).answer with
  | error e => rfl
  | ok handle =>
    have hfits := b.region.fits
    have hcursor := hb.2
    have haddress : Fault.addWords b.shared.region.base handle.offset =
        .ok (b.region.addressOf handle) := by
      rw [Bump.handle_eq hanswer]
      exact Fault.addWords_of_lt (show b.region.base + b.cursor < _ by omega)
    simp only [haddress]
    rfl

/-- All that a heap reports when it is asked is about the request. -/
theorem isAboutRequest_allocate (b : Bump) (size : Int32) :
    ∀ e ∈ (b.allocate size).events, e.isAboutRequest = true := by
  obtain ⟨-, hr⟩ | ⟨-, -, hr⟩ | ⟨-, -, hr⟩ := b.allocate_cases size <;> rw [hr]
  · exact fun e he => absurd he List.not_mem_nil
  · exact List.forall_mem_singleton.mpr rfl
  · exact List.forall_mem_singleton.mpr rfl

/-- A call for memory passes on and records what the heap answers. -/
theorem call_of_request {b : Bump} (hb : b.Sound) (hheap : m.heap = some b.shared) {size : Int32}
    (hrequest : c.request? = some size) (w : Surroundings) (thread : Nat) :
    m.call w thread c = (.returned (c.passOn b.region.base (b.allocate size).answer),
      ((m.withHeap (b.allocate size).heap.shared).reportAll (b.allocate size).events).record thread
        (.ofResult (b.allocate size).answer)) := by
  have htake := takeBlock_eq hb hheap size
  cases c with
  | allocate _ =>
    cases hrequest
    simp only [call, allocate, htake]
    cases (b.allocate size).answer <;> rfl
  | allocateChecked isNull _ =>
    cases isNull with
    | true => cases hrequest
    | false =>
      cases hrequest
      simp only [call, allocateChecked, htake]
      cases (b.allocate size).answer <;> rfl
  | _ => cases hrequest

/-- Where there is no heap, it reports nothing and puts none in place. -/
theorem call_of_no_heap (hheap : m.heap = none) {size : Int32} (hrequest : c.request? = some size)
    (w : Surroundings) (thread : Nat) :
    (m.call w thread c).2.requestReports = m.requestReports ∧
      (m.call w thread c).2.heap = m.heap := by
  cases c with
  | allocate _ =>
    simp only [call, allocate, takeBlock, hheap]
    exact ⟨rfl, hheap⟩
  | allocateChecked isNull _ =>
    cases isNull with
    | true => cases hrequest
    | false =>
      simp only [call, allocateChecked, takeBlock, hheap]
      exact ⟨rfl, hheap⟩
  | _ => cases hrequest

/-! ## The episodes of a process -/

/-- **What a call had to say about requests**: nothing if it did not come to the heap, and else what
has to be reported of the answer that it passed on and recorded. -/
inductive Tells (thread : Nat) (m : Machine) (c : Call) :
    Outcome Answer × Machine → List Log.Event → Prop
  | unheard {result : Outcome Answer × Machine} (h : c.request? = none ∨ m.heap = none) :
    Tells thread m c result []
  | heard {size : Int32} {heap : Shared} {answer : Except HeapError Handle} {m' : Machine}
    {events : List Log.Event} (hrequest : c.request? = some size) (hheap : m.heap = some heap)
    (hrecorded : m'.statuses thread = .ofResult answer) (hevents : Announces size answer events) :
    Tells thread m c (.returned (c.passOn heap.region.base answer), m') events

/-- These are the episodes of the process: what was reported is what they report, and the numbers of
the heap are those of their history. -/
structure Documented (m : Machine) (es : List Episode) : Prop where
  reports : m.requestReports = reportsOf es
  announced : ∀ e ∈ es, Announces e.size e.answer e.events
  heap : (m.heap = none ∧ es = []) ∨ ∃ b : Bump, m.heap = some b.shared ∧ b.Accounts (historyOf es)

theorem documented_fresh : Documented fresh [] where
  reports := rfl
  announced := fun _ he => absurd he List.not_mem_nil
  heap := .inl ⟨rfl, rfl⟩

/-- A call that does not come to the heap adds no episode. -/
theorem Documented.stays (hm : Documented m es) (hreports : m'.requestReports = m.requestReports)
    (hheap : HeapStays m m') : Documented m' es where
  reports := hreports.trans hm.reports
  announced := hm.announced
  heap := by
    obtain hsame | ⟨r, hnone, hnew⟩ := hheap
    · rw [hsame]
      exact hm.heap
    · obtain ⟨-, rfl⟩ | ⟨b, hb, -⟩ := hm.heap
      · exact .inr ⟨Bump.ofRegion r, hnew, Bump.Accounts.ofRegion r⟩
      · cases hnone.symm.trans hb

/-- **One call** tells what it has to, and adds the episode that it had. -/
theorem Documented.call (hm : Documented m es) (w : Surroundings) (thread : Nat)
    (hreport : c.makesUpReport = false) :
    ∃ more, Documented (m.call w thread c).2 (es ++ more) ∧
      Tells thread m c (m.call w thread c) (reportsOf more) := by
  cases hrequest : c.request? with
  | none =>
    refine ⟨[], ?_, .unheard (.inl hrequest)⟩
    rw [List.append_nil]
    exact hm.stays (call_spares w thread m hrequest hreport).reported
      (call_heapStays w thread m hrequest)
  | some size =>
    obtain ⟨hnone, -⟩ | ⟨b, hb, haccounts⟩ := hm.heap
    · obtain ⟨hreports, hheap⟩ := call_of_no_heap hnone hrequest w thread
      refine ⟨[], ?_, .unheard (.inr hnone)⟩
      rw [List.append_nil]
      exact hm.stays hreports (.inl hheap)
    · have hsound : b.Sound := ⟨haccounts.granular, haccounts.within⟩
      let episode : Episode := ⟨size, (b.allocate size).answer, (b.allocate size).events⟩
      have hnew : Announces size (b.allocate size).answer (b.allocate size).events :=
        b.allocate_announces size
      have hevents : reportsOf [episode] = (b.allocate size).events :=
        List.append_nil (b.allocate size).events
      rw [call_of_request hsound hb hrequest]
      refine ⟨[episode], ⟨?_, ?_, .inr ⟨(b.allocate size).heap, reportAll_heap _ _, ?_⟩⟩, ?_⟩
      · have happend : reportsOf (es ++ [episode]) = reportsOf es ++ reportsOf [episode] :=
          List.flatMap_append
        show (reportAll _ _).reported _ = _
        rw [reported_reportAll, List.filter_eq_self.mpr (isAboutRequest_allocate b size), happend,
          hevents]
        exact congrArg (· ++ _) hm.reports
      · intro e he
        obtain he | he := List.mem_append.mp he
        · exact hm.announced e he
        · obtain rfl := List.mem_singleton.mp he
          exact hnew
      · have hmore := haccounts.allocate size
        rwa [historyOf, List.map_append]
      · rw [hevents]
        exact .heard hrequest hb (record_statuses_same _ _ _) hnew

/-- The reports are as many as the statistics say. -/
def Counted (m : Machine) : Prop :=
  ∃ stats, m.stats = .returned stats ∧
    countMessage "allocated" m.requestReports = stats.elim 0 (·.allocations) ∧
    countMessage "allocation failed" m.requestReports = stats.elim 0 (·.failedAllocations)

theorem Documented.counted (hm : Documented m es) : Counted m := by
  obtain ⟨hgrants, hrefusals⟩ := Heap.count_reports hm.announced
  rw [Counted, hm.reports, hgrants, hrefusals]
  obtain ⟨hnone, rfl⟩ | ⟨b, hb, haccounts⟩ := hm.heap
  · exact ⟨none, by rw [stats, hnone], rfl, rfl⟩
  · refine ⟨some b.stats, ?_, haccounts.allocations_eq.symm, haccounts.failedAllocations_eq.symm⟩
    simp only [stats, hb, Bump.shared_stats ⟨haccounts.granular, haccounts.within⟩]

/-- A run adds the episodes of its calls. -/
theorem Documented.run (hm : Documented m es) (w : Surroundings) {calls : List (Nat × Call)}
    (hcalls : ∀ x ∈ calls, x.2.makesUpReport = false) :
    ∃ more, Documented (m.run w calls).2.2 (es ++ more) := by
  induction calls generalizing m es with
  | nil => exact ⟨[], by rwa [List.append_nil]⟩
  | cons x rest ih =>
    obtain ⟨thread, c⟩ := x
    obtain ⟨more, hcall, -⟩ := hm.call w thread (hcalls (thread, c) List.mem_cons_self)
    rw [Machine.run]
    rcases hresult : m.call w thread c with ⟨outcome, m₁⟩
    rw [hresult] at hcall
    cases outcome with
    | returned answer =>
      obtain ⟨later, hlater⟩ := ih hcall fun y hy => hcalls y (List.mem_cons_of_mem _ hy)
      exact ⟨more ++ later, by rwa [← List.append_assoc]⟩
    | aborted => exact ⟨more, hcall⟩
    | faulted fault => exact ⟨more, hcall⟩

/-- So does the part of a run in front of a call. -/
theorem Documented.before {k : Nat} {calls : List (Nat × Call)} {before : Machine}
    (hmakes : Makes w m calls k thread c before) (hm : Documented m es)
    (hcalls : ∀ x ∈ calls, x.2.makesUpReport = false) : ∃ more, Documented before (es ++ more) := by
  induction hmakes generalizing es with
  | first => exact ⟨[], by rwa [List.append_nil]⟩
  | @later m m₁ _ thread₀ c₀ answer rest _ _ _ hreturned _ ih =>
    obtain ⟨more, hcall, -⟩ := hm.call w thread₀ (hcalls (thread₀, c₀) List.mem_cons_self)
    rw [hreturned] at hcall
    obtain ⟨later, hlater⟩ := ih hcall fun y hy => hcalls y (List.mem_cons_of_mem _ hy)
    exact ⟨more ++ later, by rwa [← List.append_assoc]⟩

end Machine

/-! ## The law -/

open Machine (Makes Tells Counted)

/-- **Two heaps report alike**: these are the episodes in which both serve the requests, and the
statistics that both have then. -/
structure HeapsReport (b : Bump) (h : Shared) (sizes : List Int32) (es : List Episode)
    (stats : Heap.Stats) : Prop where
  bump : ∃ b', episodes (fun b size => .ok (b.allocate size)) b sizes = .ok (es, b') ∧
    b'.stats = stats
  shared : ∃ h', episodes Shared.allocate h sizes = .ok (es, h') ∧ h'.stats = .ok stats
  sizes_eq : es.map Episode.size = sizes
  announced : ∀ e ∈ es, Announces e.size e.answer e.events
  granted : countMessage "allocated" (reportsOf es) = stats.allocations
  refused : countMessage "allocation failed" (reportsOf es) = stats.failedAllocations

/-- **A process reports about requests** what its calls for memory have to, call by call, and at any
moment as often as the statistics say. -/
structure ProcessReports (w : Surroundings) (calls : List (Nat × Call)) : Prop where
  each : ∀ {k thread c before}, Makes w .fresh calls k thread c before →
    ∃ events, (before.call w thread c).2.requestReports = before.requestReports ++ events ∧
      Tells thread before c (before.call w thread c) events ∧ Counted before
  last : Counted (Machine.run w .fresh calls).2.2

/-- Any requests to two fresh heaps of one size. -/
theorem heapsReport {r r' : Heap.Region} (hsize : r'.size = r.size) (sizes : List Int32) :
    HeapsReport (.ofRegion r) (.ofRegion r') sizes ((Bump.ofRegion r).episodes sizes)
      ((Bump.ofRegion r).serve sizes).2.stats := by
  have haccounts := fun r => (Bump.Accounts.ofRegion r).serve sizes
  have hannounced := Bump.episodes_announce (Bump.ofRegion r) sizes
  have hhistory := Bump.historyOf_episodes (Bump.ofRegion r) sizes
  obtain ⟨hgranted, hrefused⟩ := Heap.count_reports hannounced
  rw [hhistory] at hgranted hrefused
  -- the shared heap is the bump heap over the other region
  have hmoved : Bump.ofRegion r' = (Bump.ofRegion r).relocated r' := rfl
  have hshared := Bump.shared_episodes (Bump.sound_ofRegion r') sizes
  rw [hmoved, Bump.episodes_relocated hsize] at hshared
  have hsound : (((Bump.ofRegion r).relocated r').serve sizes).2.Sound :=
    ⟨(haccounts r').granular, (haccounts r').within⟩
  have hregion : r'.size = ((Bump.ofRegion r).serve sizes).2.region.size := by
    rw [hsize, Bump.serve_region]
    rfl
  exact
    { bump := ⟨_, Bump.episodes_eq _ sizes, rfl⟩
      shared := by
        refine ⟨_, hshared, ?_⟩
        rw [Bump.shared_stats hsound, Bump.serve_relocated hsize, Bump.stats_relocated hregion]
      sizes_eq := Bump.map_size_episodes _ sizes
      announced := hannounced
      granted := hgranted.trans (haccounts r).allocations_eq.symm
      refused := hrefused.trans (haccounts r).failedAllocations_eq.symm }

/-- **Requests are reported as they are answered and counted**, by both kinds of heap and by a
process. -/
theorem requests_reported {host host' : Heap.Host} {capacity : Nat} {b : Bump} {h : Shared}
    (hb : Bump.withCapacity host capacity = .ok b)
    (hh : Shared.withCapacity host' capacity = .ok h) (sizes : List Int32) (w : Surroundings)
    {calls : List (Nat × Call)} (hcalls : ∀ x ∈ calls, x.2.makesUpReport = false) :
    (∃ es stats, HeapsReport b h sizes es stats) ∧ ProcessReports w calls := by
  obtain ⟨r, hr, rfl⟩ := Heap.Bump.withCapacity_eq_ok hb
  obtain ⟨r', hr', rfl⟩ := Heap.Shared.withCapacity_eq_ok hh
  refine ⟨⟨_, _, heapsReport (hr'.trans hr.symm) sizes⟩, ?_, ?_⟩
  · intro k thread c before hmakes
    obtain ⟨es, hbefore⟩ := Machine.documented_fresh.before hmakes hcalls
    have hc := hcalls (thread, c) (List.mem_of_getElem? hmakes.getElem?)
    obtain ⟨more, hafter, htells⟩ := hbefore.call w thread hc
    refine ⟨reportsOf more, ?_, htells, hbefore.counted⟩
    rw [hafter.reports, hbefore.reports]
    exact List.flatMap_append
  · obtain ⟨es, hlast⟩ := Machine.documented_fresh.run w hcalls
    exact hlast.counted

/-- Ten bytes, of which two are never used: heaps that grant, refuse and grant nothing, and a process
that is asked before it has a heap, with a null pointer, and until the heap is full. -/
theorem requests_reported_ten :
    ∃ b h, Bump.withCapacity Heap.Host.ample 10 = .ok b ∧
      Shared.withCapacity Heap.Host.ample 10 = .ok h ∧
      (∃ es stats, HeapsReport b h [3, -1, 0, 8, 4] es stats) ∧
      ProcessReports .quiet [(0, .allocate 8), (0, .init 10), (1, .allocateChecked true 8),
        (1, .allocateChecked false 8), (0, .allocate 4)] := by
  refine ⟨_, _, rfl, rfl, ?_⟩
  exact @requests_reported Heap.Host.ample Heap.Host.ample 10 _ _ rfl rfl [3, -1, 0, 8, 4] .quiet
    [(0, .allocate 8), (0, .init 10), (1, .allocateChecked true 8), (1, .allocateChecked false 8),
      (0, .allocate 4)] (by simp [Call.makesUpReport])

end VmSupport
