import Mathlib.Data.List.Basic
import Mathlib.Data.Nat.Find

/-!
# Longest match

A text is cut into tokens from the left, and each token is as long as it can be. What a token is
stays a parameter: the lemma that cuts one off asks only that nothing longer at the same place
is a token.
-/
namespace CWriter

/-- The length of the longest token in front, and 0 if none begins there. -/
def longestToken (isToken : List Char → Bool) (cs : List Char) : Nat :=
  Nat.findGreatest (fun n => isToken (cs.take n)) cs.length

/-- Cuts a text by longest match. A character that begins no token stands alone. -/
def munch (isToken : List Char → Bool) : List Char → List (List Char)
  | [] => []
  | c :: cs =>
    (c :: cs.take (longestToken isToken (c :: cs) - 1)) ::
      munch isToken (cs.drop (longestToken isToken (c :: cs) - 1))
termination_by cs => cs.length
decreasing_by
  simp only [List.length_drop, List.length_cons]
  omega

section

variable {isToken : List Char → Bool} {token rest : List Char}

/-- A token in front is the longest one if the text behind it does not make it a longer one. -/
theorem longestToken_append (htoken : isToken token = true)
    (hmax : ∀ c more, c :: more <+: rest → isToken (token ++ c :: more) = false) :
    longestToken isToken (token ++ rest) = token.length := by
  rw [longestToken, Nat.findGreatest_eq_iff]
  refine ⟨by simp, fun _ => by simpa using htoken, fun n hlt hle => ?_⟩
  have htake : (token ++ rest).take n = token ++ rest.take (n - token.length) := by
    rw [List.take_append, List.take_of_length_le (Nat.le_of_lt hlt)]
  have hlen : (rest.take (n - token.length)).length = n - token.length := by
    rw [List.length_append] at hle
    rw [List.length_take]
    omega
  cases hmore : rest.take (n - token.length) with
  | nil =>
    rw [hmore, List.length_nil] at hlen
    omega
  | cons c more =>
    have hbegins : c :: more <+: rest := hmore ▸ List.take_prefix _ _
    rw [htake, hmore, hmax c more hbegins]
    decide

/-- Cuts off the token in front. -/
theorem munch_append (hne : token ≠ []) (htoken : isToken token = true)
    (hmax : ∀ c more, c :: more <+: rest → isToken (token ++ c :: more) = false) :
    munch isToken (token ++ rest) = token :: munch isToken rest := by
  have hlong := longestToken_append htoken hmax
  cases token with
  | nil => exact absurd rfl hne
  | cons c cs =>
    rw [List.cons_append] at hlong ⊢
    rw [munch, hlong]
    simp

/-- The first token is at least as long as any token in front. -/
theorem length_le_length_munch_head (hne : token ≠ []) (htoken : isToken token = true) :
    ∃ first more, munch isToken (token ++ rest) = first :: more ∧ token.length ≤ first.length := by
  have hle : token.length ≤ longestToken isToken (token ++ rest) :=
    Nat.le_findGreatest (by simp) (by simpa using htoken)
  have hbound : longestToken isToken (token ++ rest) ≤ (token ++ rest).length :=
    Nat.findGreatest_le _
  cases token with
  | nil => exact absurd rfl hne
  | cons c cs =>
    rw [List.cons_append] at hle hbound ⊢
    refine ⟨_, _, munch.eq_2 .., ?_⟩
    rw [List.length_cons] at hle hbound
    simp only [List.length_cons, List.length_take]
    omega

end

end CWriter
