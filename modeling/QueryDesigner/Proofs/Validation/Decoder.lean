import Mathlib
import QueryDesigner.Query.Encode

/-!
# Facts about decoders

* `Decoded.both_eq_ok_iff` — two outcomes together succeed where both do;
* `Decoder.list_map`, `Decoded.collectFields_map` — lists and dictionaries whose items are read back
  as they were;
* `Decoder.list_texts`, `Decoder.optional_count` — the same of texts and of counts.
-/

namespace QueryDesigner
namespace Validation

variable {α β : Type}

namespace Decoded

@[simp] theorem both_ok (f : α → β) (x : α) : both (.ok f) (.ok x) = .ok (f x) := rfl

@[simp] theorem under_ok (step : Step) (x : α) : under step (.ok x) = .ok x := rfl

theorem both_eq_ok_iff {f : Decoded (α → β)} {x : Decoded α} {b : β} :
    both f x = .ok b ↔ ∃ g a, f = .ok g ∧ x = .ok a ∧ g a = b := by
  cases f <;> cases x <;> simp [both]

theorem under_eq_ok_iff {step : Step} {x : Decoded α} {a : α} :
    under step x = .ok a ↔ x = .ok a := by
  cases x <;> simp [under, Except.mapError]

theorem map_eq_ok_iff {f : α → β} {x : Decoded α} {b : β} :
    x.map f = .ok b ↔ ∃ a, x = .ok a ∧ f a = b := by
  cases x <;> simp [Except.map]

theorem collect_map {decode : Decoder α} {encode : α → Datum} (xs : List α) (n : Nat) :
    (∀ x, decode (encode x) = .ok x) → collect decode n (xs.map encode) = .ok xs := by
  intro h
  induction xs generalizing n with
  | nil =>
      rfl
  | cons x rest ih =>
      rw [List.map_cons, collect, h x, ih (n + 1)]
      rfl

theorem collectFields_map {decode : Decoder α} {encode : α → Datum}
    (entries : List (String × α)) :
    (∀ x, decode (encode x) = .ok x) →
      collectFields decode (entries.map fun e => (e.1, encode e.2)) = .ok entries := by
  intro h
  induction entries with
  | nil =>
      rfl
  | cons e rest ih =>
      rw [List.map_cons, collectFields, h e.2, ih]
      rfl

end Decoded

namespace Decoder

theorem text_eq_ok_iff {d : Datum} {s : String} : text d = .ok s ↔ d = .text s := by
  cases d <;> simp [text, Decoded.fail]

theorem list_map {decode : Decoder α} {encode : α → Datum} (xs : List α) :
    (∀ x, decode (encode x) = .ok x) → list decode (.list (xs.map encode)) = .ok xs :=
  Decoded.collect_map xs 0

theorem list_texts (ts : List String) : list text (.texts ts) = .ok ts :=
  list_map ts fun _ => rfl

theorem optional_count (n : Option Nat) : optional natural (.ofOption .count n) = .ok n := by
  cases n with
  | none =>
      rfl
  | some n =>
      have hn : ¬ (n : Int) < 0 := by omega
      simp [Datum.ofOption, Datum.count, optional, natural, integer, Except.bind, Except.map, hn]

end Decoder

theorem defaulted_eq_ok_iff {fields : List (String × Datum)} {name : String} {default a : α}
    {decode : Decoder α} :
    defaulted fields name default decode = .ok a ↔
      (fields.lookup name = none ∧ default = a) ∨
        ∃ d, fields.lookup name = some d ∧ decode d = .ok a := by
  cases hfield : fields.lookup name <;> simp [defaulted, hfield, Decoded.under_eq_ok_iff]

end Validation
end QueryDesigner
