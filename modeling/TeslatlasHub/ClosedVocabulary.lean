import Mathlib

namespace ClosedVocabulary

class Vocabulary (α : Type) where
  all : List α
  code : α → String
  mem_all : ∀ a, a ∈ all
  nodup_codes : (all.map code).Nodup

variable {α : Type} [Vocabulary α]

def fromCode (code : String) : Option α := Vocabulary.all.find? fun a => Vocabulary.code a == code

theorem code_inj {a b : α} (h : Vocabulary.code a = Vocabulary.code b) : a = b :=
  List.inj_on_of_nodup_map Vocabulary.nodup_codes (Vocabulary.mem_all a) (Vocabulary.mem_all b) h

theorem code_of_fromCode {c : String} {a : α} (h : fromCode c = some a) :
    Vocabulary.code a = c := by
  have hfound := List.find?_some h
  exact beq_iff_eq.mp hfound

theorem fromCode_eq_some {c : String} {a : α} : fromCode c = some a ↔ Vocabulary.code a = c := by
  refine ⟨code_of_fromCode, ?_⟩
  rintro rfl
  have hsome : (fromCode (Vocabulary.code a) : Option α).isSome :=
    List.find?_isSome.mpr ⟨a, Vocabulary.mem_all a, beq_self_eq_true (Vocabulary.code a)⟩
  obtain ⟨b, hb⟩ := Option.isSome_iff_exists.mp hsome
  rw [hb, code_inj (code_of_fromCode hb)]

@[simp] theorem fromCode_code (a : α) : fromCode (Vocabulary.code a) = some a :=
  fromCode_eq_some.mpr rfl

end ClosedVocabulary
