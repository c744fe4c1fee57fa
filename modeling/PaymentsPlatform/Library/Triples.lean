import Mathlib.Data.List.Basic

/-!
# Three lists in step

`List.Forall₂` for three lists: they have one length, and the entries at each position are
related.  An optional value takes part as the list of what it holds.
-/

namespace PaymentsPlatform.Library

variable {α β γ α' β' γ' : Type}

inductive Forall₃ (related : α → β → γ → Prop) : List α → List β → List γ → Prop where
  | nil : Forall₃ related [] [] []
  | cons {first second third firsts seconds thirds} :
      related first second third → Forall₃ related firsts seconds thirds →
      Forall₃ related (first :: firsts) (second :: seconds) (third :: thirds)

namespace Forall₃

variable {related : α → β → γ → Prop} {related' : α' → β' → γ' → Prop}
  {firsts : List α} {seconds : List β} {thirds : List γ}

theorem lengths (lists : Forall₃ related firsts seconds thirds) :
    firsts.length = seconds.length ∧ firsts.length = thirds.length := by
  induction lists with
  | nil => exact ⟨rfl, rfl⟩
  | cons _ _ ih => exact ⟨congrArg (· + 1) ih.1, congrArg (· + 1) ih.2⟩

theorem append {firsts' : List α} {seconds' : List β} {thirds' : List γ}
    (left : Forall₃ related firsts seconds thirds)
    (right : Forall₃ related firsts' seconds' thirds') :
    Forall₃ related (firsts ++ firsts') (seconds ++ seconds') (thirds ++ thirds') := by
  induction left with
  | nil => exact right
  | cons head _ ih => exact .cons head ih

theorem map {f : α → α'} {g : β → β'} {h : γ → γ'}
    (each : ∀ first second third, related first second third →
      related' (f first) (g second) (h third))
    (lists : Forall₃ related firsts seconds thirds) :
    Forall₃ related' (firsts.map f) (seconds.map g) (thirds.map h) := by
  induction lists with
  | nil => exact .nil
  | cons head _ ih => exact .cons (each _ _ _ head) ih

theorem map_same {δ : Type} {f : δ → α} {g : δ → β} {h : δ → γ} {list : List δ}
    (each : ∀ entry ∈ list, related (f entry) (g entry) (h entry)) :
    Forall₃ related (list.map f) (list.map g) (list.map h) := by
  induction list with
  | nil => exact .nil
  | cons entry rest ih =>
      obtain ⟨head, tail⟩ := List.forall_mem_cons.mp each
      exact .cons head (ih tail)

theorem mapIdx {f : Nat → α → α'} {g : Nat → β → β'} {h : Nat → γ → γ'}
    (each : ∀ position first second third, related first second third →
      related' (f position first) (g position second) (h position third))
    (lists : Forall₃ related firsts seconds thirds) :
    Forall₃ related' (firsts.mapIdx f) (seconds.mapIdx g) (thirds.mapIdx h) := by
  induction lists generalizing f g h with
  | nil => exact .nil
  | cons head _ ih =>
      rw [List.mapIdx_cons, List.mapIdx_cons, List.mapIdx_cons]
      exact .cons (each 0 _ _ _ head) (ih fun position => each (position + 1))

theorem flatMap {f : α → List α'} {g : β → List β'} {h : γ → List γ'}
    (each : ∀ first second third, related first second third →
      Forall₃ related' (f first) (g second) (h third))
    (lists : Forall₃ related firsts seconds thirds) :
    Forall₃ related' (firsts.flatMap f) (seconds.flatMap g) (thirds.flatMap h) := by
  induction lists with
  | nil => exact .nil
  | cons head _ ih => exact (each _ _ _ head).append ih

theorem getElem? (lists : Forall₃ related firsts seconds thirds) (position : Nat) :
    Forall₃ related firsts[position]?.toList seconds[position]?.toList
      thirds[position]?.toList := by
  induction lists generalizing position with
  | nil => exact .nil
  | cons head _ ih =>
      cases position with
      | zero => exact .cons head .nil
      | succ position => exact ih position

theorem filter {p : α → Bool} {q : β → Bool} {r : γ → Bool}
    (agree : ∀ first second third, related first second third →
      p first = q second ∧ p first = r third)
    (lists : Forall₃ related firsts seconds thirds) :
    Forall₃ related (firsts.filter p) (seconds.filter q) (thirds.filter r) := by
  induction lists with
  | nil => exact .nil
  | @cons first second third _ _ _ head _ ih =>
      obtain ⟨same, same'⟩ := agree _ _ _ head
      cases chosen : p first with
      | false =>
          rw [chosen] at same same'
          simpa [chosen, ← same, ← same'] using ih
      | true =>
          rw [chosen] at same same'
          simpa [chosen, ← same, ← same'] using Forall₃.cons head ih

theorem find? {p : α → Bool} {q : β → Bool} {r : γ → Bool}
    (agree : ∀ first second third, related first second third →
      p first = q second ∧ p first = r third)
    (lists : Forall₃ related firsts seconds thirds) :
    Forall₃ related (firsts.find? p).toList (seconds.find? q).toList (thirds.find? r).toList := by
  simpa only [← List.head?_filter, List.head?_eq_getElem?] using (lists.filter agree).getElem? 0

theorem optionMap {f : α → α'} {g : β → β'} {h : γ → γ'} {first : Option α} {second : Option β}
    {third : Option γ}
    (each : ∀ first second third, related first second third →
      related' (f first) (g second) (h third))
    (options : Forall₃ related first.toList second.toList third.toList) :
    Forall₃ related' (first.map f).toList (second.map g).toList (third.map h).toList := by
  simpa only [Option.toList_map] using options.map each

theorem getD {first : Option α} {second : Option β} {third : Option γ} {a : α} {b : β} {c : γ}
    (options : Forall₃ related first.toList second.toList third.toList)
    (default : related a b c) : related (first.getD a) (second.getD b) (third.getD c) := by
  cases first <;> cases second <;> cases third <;> cases options
  · exact default
  next head _ => exact head

end Forall₃

end PaymentsPlatform.Library
