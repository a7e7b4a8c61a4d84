import VmSupport.Proofs.Heap.Alone
import VmSupport.Proofs.Heap.ServiceRange

/-!
# Handles and addresses of a region

A region takes any handle and any address. It converts in both directions, by four functions that
each look at the bounds for themselves, or do not look at all.

**The law** (`region_converts`): the conversions are one order-preserving bijection, between the
handles that the region contains and the addresses from its base to its end, the end included. No
other address has a handle. A handle of another heap that the region does not contain may still
have an address here, but that leads to no pointer and not back to the handle.

The heaps over a region grant only handles that it contains. For the bump heap this is where its
blocks lie (`Bump.Accounts.tiled`). For the shared heap it is an invariant of every interleaving:
what a client was granted does not lie past the cursor (`Client.Lodged`), and the cursor only grows.

**The end.** A request for nothing is granted on a full heap as well. Its handle is the distance of
the end, and the bijection takes it to the end of the region.
-/

namespace VmSupport.Heap

/-! ## The conversions -/

namespace Region

variable {r : Region} {h k : Handle} {x : Nat}

theorem contains_iff : r.contains h = true ↔ h.offset ≤ r.size :=
  decide_eq_true_iff

/-- The handle of an address is the contained one that has this address. -/
theorem handleOf?_eq_some_iff :
    r.handleOf? x = some h ↔ r.addressOf h = x ∧ r.contains h = true := by
  rw [contains_iff, handleOf?]
  split
  · next hx =>
    obtain ⟨hbase, hsize⟩ := hx
    rw [Option.some.injEq]
    constructor
    · rintro rfl
      exact ⟨Nat.add_sub_cancel' hbase, hsize⟩
    · rintro ⟨rfl, -⟩
      rw [addressOf, Nat.add_sub_cancel_left]
  · next hx =>
    constructor
    · intro hnone
      cases hnone
    · rintro ⟨rfl, hcontains⟩
      refine absurd ⟨Nat.le_add_right _ _, ?_⟩ hx
      rwa [addressOf, Nat.add_sub_cancel_left]

/-- **Pointers are the same conversion the other way.** -/
theorem pointer?_eq_some_iff :
    r.pointer? h = some x ↔ r.addressOf h = x ∧ r.contains h = true := by
  rw [pointer?, addressOf]
  split
  · next hcontains => rw [Option.some.injEq, and_iff_left hcontains]
  · next hcontains => simp only [reduceCtorEq, hcontains, Bool.false_eq_true, and_false]

/-- The addresses that have a handle. -/
theorem handleOf?_isSome_iff : (r.handleOf? x).isSome = true ↔ r.base ≤ x ∧ x ≤ r.limit := by
  simp only [Option.isSome_iff_exists, handleOf?_eq_some_iff, contains_iff, addressOf, limit]
  constructor
  · rintro ⟨h, rfl, hcontains⟩
    exact ⟨Nat.le_add_right _ _, Nat.add_le_add_left hcontains _⟩
  · rintro ⟨hbase, hlimit⟩
    exact ⟨⟨x - r.base⟩, Nat.add_sub_cancel' hbase, Nat.sub_le_iff_le_add'.mpr hlimit⟩

/-- The address of a contained handle is a word, and it is not null. -/
theorem addressOf_bounds (hcontains : r.contains h = true) :
    0 < r.addressOf h ∧ r.addressOf h < Fault.wordLimit := by
  have hpos := r.base_pos
  have hfits := r.fits
  have hle := contains_iff.mp hcontains
  rw [addressOf]
  omega

/-- A distance from the base keeps the order, in the region and outside of it. -/
theorem order_eq_lt_iff : h.order k = .lt ↔ r.addressOf h < r.addressOf k := by
  rw [Handle.order, Nat.compare_eq_lt, addressOf, addressOf, Nat.add_lt_add_iff_left]

end Region

/-! ## What the bump heap grants -/

namespace Bump

/-- The handles that a run granted. -/
theorem contains_granted (r : Region) {sizes : List Int32} {size : Int32} {handle : Handle}
    (hgranted : (size, .ok handle) ∈ ((ofRegion r).serve sizes).1) :
    r.contains handle = true := by
  have haccounts := (Accounts.ofRegion r).serve sizes
  have hblock : ⟨handle.offset, roundUp size⟩ ∈ History.blocks ((ofRegion r).serve sizes).1 :=
    List.mem_filterMap.mpr ⟨_, hgranted, rfl⟩
  have hlimit := (haccounts.tiled.within _ hblock).2
  have hcursor := haccounts.within
  rw [serve_region] at hcursor
  exact Region.contains_iff.mpr (Nat.le_trans (Nat.le_add_right _ _) (Nat.le_trans hlimit hcursor))

/-- The place where the next block will begin. -/
theorem contains_cursor (r : Region) (sizes : List Int32) :
    r.contains ⟨((ofRegion r).serve sizes).2.cursor⟩ = true := by
  have hcursor := ((Accounts.ofRegion r).serve sizes).within
  rw [serve_region] at hcursor
  exact Region.contains_iff.mpr hcursor

/-- A request for nothing always fits. -/
theorem allocate_nothing (b : Bump) : (b.allocate 0).answer = .ok ⟨b.cursor⟩ := by
  have hnone : roundUp 0 = 0 := by decide
  rw [b.allocate_of_fits (by decide) (hnone ▸ Nat.zero_le _)]
  rfl

end Bump

/-! ## What the shared heap grants -/

/-- What a client was granted does not lie past the cursor. -/
def Client.Lodged (h : Shared) (c : Client) : Prop :=
  ∀ handle, Result.answer (.ok handle) ∈ c.results → handle.offset ≤ h.cursor

/-- The same for all clients of a service. -/
def Service.Lodged (s : Service) : Prop :=
  ∀ c ∈ s.clients, c.Lodged s.heap

section

variable {past : Nat → Prop} {h h' : Shared} {c : Client} {s : Service}

/-- A request that was granted has moved the cursor past its block. -/
theorem Errand.Sound.le_cursor {seen : List Stats} {e : Errand} (he : e.Sound past seen h)
    {handle : Handle} (hr : e.result? = some (.answer (.ok handle))) : handle.offset ≤ h.cursor := by
  cases e with
  | request stage =>
    cases stage with
    | returned answer =>
      cases hr
      obtain ⟨⟨size, hstage⟩, -⟩ := he
      exact Nat.le_trans (Nat.le_add_right _ _) (hstage handle rfl).2
    | _ => cases hr
  | look l =>
    cases l with
    | told reading => cases hr
    | _ => cases hr

theorem Client.Lodged.mono (hc : c.Lodged h) (hle : h.cursor ≤ h'.cursor) : c.Lodged h' :=
  fun handle hmem => Nat.le_trans (hc handle hmem) hle

/-- An action of a client keeps its grants behind the cursor. -/
theorem Client.step_lodged (hh : h.Sound) (hs : c.Sound past h) (hc : c.Lodged h)
    (spurious : Bool) : (c.step h spurious).1.Lodged (c.step h spurious).2.1 := by
  have hgrows := (Client.step_grows hh hs spurious).1
  cases he : c.errand with
  | none =>
    cases hw : c.waiting with
    | nil =>
      simp only [step, he, hw]
      exact hc
    | cons task tasks =>
      simp only [step, he, hw]
      exact hc
  | some e =>
    cases hr : e.result? with
    | none =>
      simp only [step, he, hr] at hgrows ⊢
      exact hc.mono hgrows.within.used
    | some result =>
      simp only [step, he, hr]
      intro handle hmem
      obtain hold | hnew := List.mem_append.mp hmem
      · exact hc handle hold
      · rw [← List.mem_singleton.mp hnew] at hr
        exact (hs.errand he).le_cursor hr

/-- An action in a service keeps all grants behind the cursor. -/
theorem Service.step_lodged (hs : s.Sound past) (hl : s.Lodged) (i : Nat) (spurious : Bool) :
    (s.step i spurious).Lodged := by
  have hgrows := step_grows hs i spurious
  obtain heq | ⟨c, hi, hheap, hclients⟩ := s.step_cases i spurious
  · rw [heq]
    exact hl
  · have hmem := List.mem_of_getElem? hi
    intro d hd
    rw [hclients] at hd
    obtain hold | rfl := List.mem_or_eq_of_mem_set hd
    · exact (hl d hold).mono hgrows.within.used
    · rw [hheap]
      exact Client.step_lodged hs.heap (hs.clients c hmem) (hl c hmem) spurious

/-- **Every schedule keeps all grants behind the cursor.** -/
theorem Service.run_lodged (hs : s.Sound fun _ => True) (hl : s.Lodged)
    (schedule : List (Nat × Bool)) : (s.run schedule).Lodged := by
  induction schedule generalizing s with
  | nil => exact hl
  | cons a schedule ih =>
    exact ih (step_sound hs trivial a.1 a.2) (step_lodged hs hl a.1 a.2)

end

theorem Service.lodged_ofTasks (h : Shared) (tasks : List (List Task)) :
    (ofTasks h tasks).Lodged := by
  intro c hc
  obtain ⟨ts, -, rfl⟩ := List.mem_map.mp hc
  intro handle hmem
  cases hmem

/-- The shared heap over a region, after clients with these tasks ran by this schedule. -/
def Region.serviceRun (r : Region) (tasks : List (List Task)) (schedule : List (Nat × Bool)) :
    Service :=
  (Service.ofTasks (Shared.ofRegion r) tasks).run schedule

section

variable (r : Region) (tasks : List (List Task)) (schedule : List (Nat × Bool))

/-- Before the first action nothing has happened that could be unsound. -/
theorem Region.service_sound : (Service.ofTasks (Shared.ofRegion r) tasks).Sound fun _ => True :=
  Service.sound_ofTasks _ (Shared.sound_ofRegion r) tasks

/-- The cells are as they should be, and they are still those of the region. -/
theorem Region.serviceRun_heap :
    (r.serviceRun tasks schedule).heap.Sound ∧ (r.serviceRun tasks schedule).heap.region = r := by
  have hstart := r.service_sound tasks
  exact ⟨(Service.run_sound hstart schedule fun _ _ _ => trivial).heap,
    (Service.run_grows hstart schedule).region_eq⟩

/-- The place where the next block of the shared heap will begin. -/
theorem Region.contains_serviceRun_cursor :
    r.contains ⟨(r.serviceRun tasks schedule).heap.cursor⟩ = true := by
  obtain ⟨⟨-, hcursor⟩, hregion⟩ := r.serviceRun_heap tasks schedule
  rw [hregion] at hcursor
  exact contains_iff.mpr hcursor

/-- The handles that clients were granted. -/
theorem Region.contains_serviceRun_granted {c : Client}
    (hc : c ∈ (r.serviceRun tasks schedule).clients) {handle : Handle}
    (hgranted : Result.answer (.ok handle) ∈ c.results) : r.contains handle = true := by
  have hlodged :=
    Service.run_lodged (r.service_sound tasks) (Service.lodged_ofTasks _ tasks) schedule
  have hcursor := contains_iff.mp (r.contains_serviceRun_cursor tasks schedule)
  exact contains_iff.mpr (Nat.le_trans (hlodged c hc handle hgranted) hcursor)

end

/-- A request for nothing is served by the shared heap wherever the cursor stands. -/
theorem Shared.allocate_nothing {h : Shared} (hh : h.Sound) :
    ∃ reply, h.allocate 0 = .ok reply ∧ reply.answer = .ok ⟨h.cursor⟩ := by
  let b : Bump :=
    { region := h.region, cursor := h.cursor, allocations := h.allocations
      failedAllocations := h.failedAllocations }
  exact ⟨_, Bump.shared_allocate (b := b) hh 0, b.allocate_nothing⟩

/-! ## The law -/

/-- **The conversions of a region are one order-preserving bijection.** -/
structure Region.Converts (r : Region) : Prop where
  /-- An address has a handle exactly if it lies in the region or at its end. -/
  handle_iff : ∀ x, (r.handleOf? x).isSome = true ↔ r.base ≤ x ∧ x ≤ r.limit
  /-- The handle of an address belongs to the region and leads back to the address. -/
  handle_spec : ∀ x h, r.handleOf? x = some h → r.addressOf h = x ∧ r.contains h = true
  pointer_iff : ∀ h, (r.pointer? h).isSome = true ↔ r.contains h = true
  /-- The pointer of a handle is its address, and it is not null. -/
  pointer_spec : ∀ h x, r.pointer? h = some x → x = r.addressOf h ∧ 0 < x
  /-- If the sum is a word, it is the address, and it leads back to the contained handles only. -/
  address_spec : ∀ h x, Fault.addWords r.base h.offset = .ok x →
    x = r.addressOf h ∧ (r.handleOf? x = some h ↔ r.contains h = true)
  /-- For the contained handles it is a word. -/
  address_fits : ∀ h, r.contains h = true → Fault.addWords r.base h.offset = .ok (r.addressOf h)
  order_iff : ∀ h k, r.contains h = true → r.contains k = true →
    (h.order k = .lt ↔ r.addressOf h < r.addressOf k)

/-- **The heaps over a region grant handles that it contains**, after any requests, granted or
refused, and under any schedule. -/
structure Region.Grants (r : Region) : Prop where
  bump : ∀ sizes size handle, (size, .ok handle) ∈ ((Bump.ofRegion r).serve sizes).1 →
    r.contains handle = true
  /-- A request for nothing is granted in every state, at the end of the region if it is full. -/
  bump_nothing : ∀ sizes, ∃ handle, r.contains handle = true ∧
    (((Bump.ofRegion r).serve sizes).2.allocate 0).answer = .ok handle ∧
    (((Bump.ofRegion r).serve sizes).2.used = r.size → r.addressOf handle = r.limit)
  shared : ∀ tasks schedule, ∀ c ∈ (r.serviceRun tasks schedule).clients, ∀ handle,
    Result.answer (.ok handle) ∈ c.results → r.contains handle = true
  shared_nothing : ∀ tasks schedule, ∃ handle reply, r.contains handle = true ∧
    (r.serviceRun tasks schedule).heap.allocate 0 = .ok reply ∧ reply.answer = .ok handle ∧
    ((r.serviceRun tasks schedule).heap.used = r.size → r.addressOf handle = r.limit)

namespace Region

theorem converts (r : Region) : r.Converts where
  handle_iff _ := handleOf?_isSome_iff
  handle_spec _ _ hx := handleOf?_eq_some_iff.mp hx
  pointer_iff h := by
    simp only [Option.isSome_iff_exists, pointer?_eq_some_iff, exists_and_right, exists_eq',
      true_and]
  pointer_spec h x hx := by
    obtain ⟨rfl, hcontains⟩ := pointer?_eq_some_iff.mp hx
    exact ⟨rfl, (addressOf_bounds hcontains).1⟩
  address_spec h x hx := by
    have hsum : r.addressOf h = x := by
      unfold Fault.addWords at hx
      split at hx
      · exact Except.ok.inj hx
      · cases hx
    refine ⟨hsum.symm, ?_⟩
    rw [handleOf?_eq_some_iff, and_iff_right hsum]
  address_fits _ hcontains := Fault.addWords_of_lt (addressOf_bounds hcontains).2
  order_iff _ _ _ _ := order_eq_lt_iff

theorem grants (r : Region) : r.Grants where
  bump _ _ _ hgranted := Bump.contains_granted r hgranted
  bump_nothing sizes :=
    ⟨_, Bump.contains_cursor r sizes, Bump.allocate_nothing _,
      fun hfull => congrArg (r.base + ·) hfull⟩
  shared tasks schedule _ hc _ hgranted := r.contains_serviceRun_granted tasks schedule hc hgranted
  shared_nothing tasks schedule := by
    obtain ⟨reply, hreply, hanswer⟩ :=
      Shared.allocate_nothing (r.serviceRun_heap tasks schedule).1
    exact ⟨_, reply, r.contains_serviceRun_cursor tasks schedule, hreply, hanswer,
      fun hfull => congrArg (r.base + ·) hfull⟩

end Region

/-- **Handles and addresses of a region are in order-preserving bijection**, and the heaps over the
region grant none but its handles. -/
theorem region_converts (r : Region) : r.Converts ∧ r.Grants :=
  ⟨r.converts, r.grants⟩

/-- The end of a region of eight bytes has a handle, and that handle has a pointer. A handle that
lies behind the end has an address, but no pointer, and its address has no handle. -/
example : (Region.reserve Host.ample 8).map (fun r =>
      (r.handleOf? 4104, r.pointer? ⟨8⟩, r.addressOf ⟨12⟩, r.handleOf? 4108, r.pointer? ⟨12⟩)) =
    .ok (some ⟨8⟩, some 4104, 4108, none, none) :=
  rfl

end VmSupport.Heap
