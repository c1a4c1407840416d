import Mathlib
import ScriptLexer.Alphabet

/-! The classes of characters that no two tokens share. Blanks and the characters that start a sign
are finitely many, none of them letters or digits; letters and digits overlap, so nothing is said of
the two together. -/
namespace ScriptLexer.Alphabet

/-- The characters with which some sign starts. -/
def signHeads : List Char := '=' :: '!' :: Sign.lone.map (·.1)

def blanks : List Char := [' ', '\t', '\n', '\r']

lemma ofLone?_eq_some {c : Char} {s : Sign} (h : Sign.ofLone? c = some s) :
    (c, s) ∈ Sign.lone := by
  obtain ⟨before, after, hl, -⟩ := List.lookup_eq_some_iff.mp h
  simp [hl]

lemma mem_signHeads_of_starting? {c : Char} {after : Option Char} {s : Sign}
    (h : Sign.starting? c after = some s) : c ∈ signHeads := by
  unfold Sign.starting? at h
  split at h
  next t ht =>
    have hm := ofLone?_eq_some ht
    exact List.mem_cons_of_mem _ (List.mem_cons_of_mem _ (List.mem_map_of_mem hm))
  next =>
    by_cases he : c = '='
    · simp [signHeads, he]
    · by_cases hb : c = '!'
      · simp [signHeads, hb]
      · simp [he, hb] at h

/-- Whether a sign starts with a character does not depend on what follows it. -/
lemma starting?_eq_none_iff {c : Char} {after : Option Char} :
    Sign.starting? c after = none ↔ startsSign c = false := by
  unfold startsSign Sign.starting?
  cases Sign.ofLone? c with
  | some s => simp
  | none =>
    by_cases he : c = '='
    · simp [he]
    · by_cases hb : c = '!' <;> simp [he, hb]

lemma startsSign_classes {c : Char} (h : startsSign c = true) :
    isBlank c = false ∧ isLetter c = false ∧ isDigit c = false := by
  have hall : signHeads.all (fun c => !isBlank c && (!isLetter c && !isDigit c)) = true := by
    decide +kernel
  obtain ⟨s, hs⟩ := Option.isSome_iff_exists.mp h
  simpa using List.all_eq_true.mp hall c (mem_signHeads_of_starting? hs)

lemma isBlank_classes {c : Char} (h : isBlank c = true) :
    isLetter c = false ∧ isDigit c = false := by
  have hall : blanks.all (fun c => !isLetter c && !isDigit c) = true := by decide +kernel
  have hc : c ∈ blanks := by simpa [isBlank, blanks, or_assoc] using h
  simpa using List.all_eq_true.mp hall c hc

lemma isBlank_eq_false_of_isLetter {c : Char} (h : isLetter c = true) : isBlank c = false := by
  by_contra hb
  simp [(isBlank_classes (by simpa using hb)).1] at h

lemma isBlank_eq_false_of_isDigit {c : Char} (h : isDigit c = true) : isBlank c = false := by
  by_contra hb
  simp [(isBlank_classes (by simpa using hb)).2] at h

lemma starting?_eq_none_of_isLetter {c : Char} (h : isLetter c = true) (after : Option Char) :
    Sign.starting? c after = none := by
  rw [starting?_eq_none_iff]
  by_contra hs
  simp [(startsSign_classes (by simpa using hs)).2.1] at h

lemma starting?_eq_none_of_isDigit {c : Char} (h : isDigit c = true) (after : Option Char) :
    Sign.starting? c after = none := by
  rw [starting?_eq_none_iff]
  by_contra hs
  simp [(startsSign_classes (by simpa using hs)).2.2] at h

lemma isBlank_eq_false_of_starting? {c : Char} {after : Option Char} {s : Sign}
    (h : Sign.starting? c after = some s) : isBlank c = false := by
  have hs : startsSign c = true := by
    by_contra hs
    simp [starting?_eq_none_iff.mpr (by simpa using hs)] at h
  exact (startsSign_classes hs).1

lemma startsSign_eq_false_iff {c : Char} :
    startsSign c = false ↔ Sign.ofLone? c = none ∧ c ≠ '=' ∧ c ≠ '!' := by
  rw [← @starting?_eq_none_iff c none, Sign.starting?]
  cases Sign.ofLone? c with
  | some s => simp
  | none => by_cases he : c = '=' <;> simp [he]

lemma isIllegal_iff {c : Char} : isIllegal c = true ↔
    isBlank c = false ∧ startsSign c = false ∧ isLetter c = false ∧ isDigit c = false := by
  simp [isIllegal, and_assoc]

/-- The longest run of characters of one class. -/
lemma exists_run (p : Char → Bool) (cs : List Char) : ∃ run rest, cs = run ++ rest ∧
    (∀ c ∈ run, p c = true) ∧ ∀ c ∈ rest.head?, p c = false := by
  refine ⟨cs.takeWhile p, cs.dropWhile p, by simp, fun c => List.mem_takeWhile_imp, ?_⟩
  intro c hc
  have hn := List.head?_dropWhile_not p cs
  rw [hc] at hn
  simpa using hn

lemma exists_run_cons {p : Char → Bool} {c : Char} (h : p c = true) (cs : List Char) :
    ∃ run rest, c :: cs = c :: run ++ rest ∧
      (∀ d ∈ c :: run, p d = true) ∧ ∀ d ∈ rest.head?, p d = false := by
  obtain ⟨run, rest, rfl, hrun, hrest⟩ := exists_run p cs
  exact ⟨run, rest, rfl, List.forall_mem_cons.mpr ⟨h, hrun⟩, hrest⟩

end ScriptLexer.Alphabet
