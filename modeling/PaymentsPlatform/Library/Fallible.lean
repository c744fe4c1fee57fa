import Mathlib.Data.List.Forall2

/-!
# Loops that can fail

What a loop of fallible steps returns, from what its steps return: it succeeds when every step
does, whatever the steps before it have made of the accumulator, and it fails with the error of
one of its steps.
-/

namespace PaymentsPlatform.Library.Fallible

variable {α β ε : Type}

/-- The computation returns. -/
def Succeeds (result : Except ε β) : Prop := ∃ value, result = .ok value

@[simp]
theorem succeeds_ok (value : β) : Succeeds (.ok value : Except ε β) := ⟨value, rfl⟩

@[simp]
theorem not_succeeds_error (error : ε) : ¬ Succeeds (.error error : Except ε β) := by
  rintro ⟨value, impossible⟩
  cases impossible

theorem bind_ok {result : Except ε α} {next : α → Except ε β} {value : β}
    (returned : result >>= next = .ok value) :
    ∃ middle, result = .ok middle ∧ next middle = .ok value := by
  cases result with
  | error error => cases returned
  | ok middle => exact ⟨middle, rfl, returned⟩

theorem bind_error {result : Except ε α} {next : α → Except ε β} {error : ε}
    (failed : result >>= next = .error error) :
    result = .error error ∨ ∃ middle, result = .ok middle ∧ next middle = .error error := by
  cases result with
  | error other =>
      cases failed
      exact Or.inl rfl
  | ok middle => exact Or.inr ⟨middle, rfl, failed⟩

theorem succeeds_foldlM {step : β → α → Except ε β} {good : α → Prop} {list : List α}
    (each : ∀ state, ∀ entry ∈ list, Succeeds (step state entry) ↔ good entry) (state : β) :
    Succeeds (list.foldlM step state) ↔ ∀ entry ∈ list, good entry := by
  induction list generalizing state with
  | nil => simp [pure, Except.pure]
  | cons entry rest ih =>
      have first := each state entry List.mem_cons_self
      have later := fun next => ih (fun state entry member =>
        each state entry (List.mem_cons_of_mem _ member)) next
      rw [List.foldlM_cons, List.forall_mem_cons, ← first]
      cases taken : step state entry with
      | error error => simp [bind, Except.bind]
      | ok next => simpa [bind, Except.bind] using later next

theorem foldlM_error {step : β → α → Except ε β} {bad : ε → Prop} {list : List α}
    (each : ∀ state, ∀ entry ∈ list, ∀ error, step state entry = .error error → bad error)
    {state : β} {error : ε} (failed : list.foldlM step state = .error error) : bad error := by
  induction list generalizing state with
  | nil => cases failed
  | cons entry rest ih =>
      rw [List.foldlM_cons] at failed
      rcases bind_error failed with
        first | ⟨next, -, later⟩
      · exact each state entry List.mem_cons_self error first
      · exact ih (fun state entry member => each state entry (List.mem_cons_of_mem _ member)) later

theorem mapM_ok {step : α → Except ε β} {list : List α} {results : List β}
    (returned : list.mapM step = .ok results) :
    List.Forall₂ (fun entry result => step entry = .ok result) list results := by
  induction list generalizing results with
  | nil =>
      cases returned
      exact .nil
  | cons entry rest ih =>
      rw [List.mapM_cons] at returned
      obtain ⟨result, first, returned⟩ := bind_ok returned
      obtain ⟨later, rest, returned⟩ := bind_ok returned
      cases returned
      exact .cons first (ih rest)

theorem getElem?_mapM {step : α → Except ε β} {list : List α} {results : List β}
    (returned : list.mapM step = .ok results) {index : Nat} {entry : α}
    (listed : list[index]? = some entry) :
    ∃ result, results[index]? = some result ∧ step entry = .ok result := by
  have each := mapM_ok returned
  clear returned
  induction each generalizing index with
  | nil => cases listed
  | @cons other first entries rest found _ ih =>
      cases index with
      | zero =>
          obtain rfl := Option.some.inj listed
          exact ⟨first, rfl, found⟩
      | succ index => exact ih listed

theorem exists_of_mem_mapM {step : α → Except ε β} {list : List α} {results : List β}
    (returned : list.mapM step = .ok results) {result : β} (listed : result ∈ results) :
    ∃ entry ∈ list, step entry = .ok result := by
  have each := mapM_ok returned
  clear returned
  induction each with
  | nil => cases listed
  | @cons entry first entries rest found _ ih =>
      rcases List.mem_cons.mp listed with
        rfl | later
      · exact ⟨entry, List.mem_cons_self, found⟩
      · obtain ⟨other, isEntry, isResult⟩ := ih later
        exact ⟨other, List.mem_cons_of_mem _ isEntry, isResult⟩

theorem exists_mem_of_mapM {step : α → Except ε β} {list : List α} {results : List β}
    (returned : list.mapM step = .ok results) {entry : α} (listed : entry ∈ list) :
    ∃ result ∈ results, step entry = .ok result := by
  have each := mapM_ok returned
  clear returned
  induction each with
  | nil => cases listed
  | @cons other first entries rest found _ ih =>
      rcases List.mem_cons.mp listed with
        rfl | later
      · exact ⟨first, List.mem_cons_self, found⟩
      · obtain ⟨result, isResult, same⟩ := ih later
        exact ⟨result, List.mem_cons_of_mem _ isResult, same⟩

theorem mapM_forall {step : α → Except ε β} {good : β → Prop} {list : List α} :
    (∃ results, list.mapM step = .ok results ∧ ∀ result ∈ results, good result) ↔
      ∀ entry ∈ list, ∃ result, step entry = .ok result ∧ good result := by
  induction list with
  | nil => simp [pure, Except.pure]
  | cons entry rest ih =>
      rw [List.forall_mem_cons, ← ih, List.mapM_cons]
      constructor
      · rintro ⟨results, returned, allGood⟩
        obtain ⟨result, first, returned⟩ := bind_ok returned
        obtain ⟨later, others, returned⟩ := bind_ok returned
        cases returned
        obtain ⟨firstGood, restGood⟩ := List.forall_mem_cons.mp allGood
        exact ⟨⟨result, first, firstGood⟩, later, others, restGood⟩
      · rintro ⟨⟨result, first, firstGood⟩, later, others, restGood⟩
        rw [first, others]
        exact ⟨result :: later, rfl, List.forall_mem_cons.mpr ⟨firstGood, restGood⟩⟩

theorem succeeds_mapM {step : α → Except ε β} {list : List α}
    (each : ∀ entry ∈ list, Succeeds (step entry)) : Succeeds (list.mapM step) := by
  obtain ⟨results, returned, -⟩ := mapM_forall.mpr fun entry listed =>
    let ⟨result, returned⟩ := each entry listed
    ⟨result, returned, trivial⟩
  exact ⟨results, returned⟩

theorem succeeds_bind {result : Except ε α} {next : α → Except ε β} (first : Succeeds result)
    (later : ∀ value, Succeeds (next value)) : Succeeds (result >>= next) := by
  obtain ⟨value, rfl⟩ := first
  exact later value

theorem forM_ok {step : α → Except ε Unit} {list : List α} :
    list.forM step = .ok () ↔ ∀ entry ∈ list, step entry = .ok () := by
  induction list with
  | nil => simp [List.forM, pure, Except.pure]
  | cons entry rest ih =>
      rw [List.forall_mem_cons, ← ih]
      constructor
      · intro returned
        obtain ⟨_, first, later⟩ := bind_ok returned
        exact ⟨first, later⟩
      · rintro ⟨first, later⟩
        change step entry >>= (fun _ => rest.forM step) = _
        rw [first]
        exact later

theorem mapM_error {step : α → Except ε β} {bad : ε → Prop} {list : List α}
    (each : ∀ entry ∈ list, ∀ error, step entry = .error error → bad error) {error : ε}
    (failed : list.mapM step = .error error) : bad error := by
  induction list with
  | nil => cases failed
  | cons entry rest ih =>
      rw [List.mapM_cons] at failed
      rcases bind_error failed with
        first | ⟨result, -, failed⟩
      · exact each entry List.mem_cons_self error first
      · rcases bind_error failed with
          later | ⟨results, -, failed⟩
        · exact ih (fun entry member => each entry (List.mem_cons_of_mem _ member)) later
        · cases failed

end PaymentsPlatform.Library.Fallible
