import TeslatlasHub.LegacyOvertaken
import TeslatlasHub.LegacyTrace

namespace TeslatlasHub.Credentials

open RunRules SingleUse List LogEvent

variable {sys : System} {r r' : ℤ} {g : Uuid} {log pre post : List LogEvent}

theorem Orderly.left (h : Orderly (pre++post)) : Orderly pre := by
  intro a e b hsplit
  exact h a e (b++post) (by rw [hsplit, append_assoc, cons_append])

variable {uses : List (Use ℤ Uuid)}

def trimTokenWhitespace (token : List Char) : List Char :=
  let blank (c : Char) : Bool := [' ', '\t', '\r', '\n'].contains c
  ((token.dropWhile blank).reverse.dropWhile blank).reverse

def Action.load [TokenReading] (p : ℕ) (access refresh : String) (clock : Option ℕ) : Action :=
  .start p ⟨trimTokenWhitespace access.toList, trimTokenWhitespace refresh.toList, none⟩
    (TokenReading.generation refresh.toList) clock clock .none

/-- Over every interleaving an attempt is presented at most once and only while it is reserved, is
judged only after it was presented, and gives its token back only if no verdict spent it. No two
processes hold one attempt. -/
theorem attempts_keep_their_order [TokenReading] (actions : List Action) :
    Orderly (System.run {} actions).log ∧ ∀ p q a b,
      ((System.run {} actions).procs p).attempt? = some a →
      ((System.run {} actions).procs q).attempt? = some b → a.receipt = b.receipt → p = q := by
  have h : Sound (System.run {} actions) := Sound.new.run actions
  exact ⟨h.orderly, h.owners⟩

end TeslatlasHub.Credentials
