import ScriptLexer.Proofs.Scan

/-! Which token lists lexing can give, and that writing them out loses nothing. A list comes from
some source exactly if each of its tokens could be read alone; written with single blanks between
them, the tokens are read back as they were. -/
namespace ScriptLexer
open Alphabet

namespace Token

/-- The tokens that can stand before the end token: words and numbers carry a text that is one. -/
def Lexical : Token → Prop
  | identifier name =>
    name ≠ "" ∧ name.toList.all isLetter = true ∧ Keyword.ofSpelling? name = none
  | number digits =>
    digits ≠ "" ∧ digits.toList.all isDigit = true ∧ digits.toList.head?.any isLetter = false
  | eof => False
  | _ => True

instance decidableLexical : DecidablePred Lexical
  | identifier name => inferInstanceAs (Decidable (name ≠ "" ∧
      name.toList.all isLetter = true ∧ Keyword.ofSpelling? name = none))
  | number digits => inferInstanceAs (Decidable (digits ≠ "" ∧
      digits.toList.all isDigit = true ∧ digits.toList.head?.any isLetter = false))
  | eof => isFalse id
  | keyword _ | sign _ | illegal => isTrue trivial

/-- The token written out, an illegal character as `@`. -/
def written (t : Token) : String := t.spelling?.getD "@"

/-- Tokens written out with single blanks between them. -/
def spaced (ts : List Token) : String := " ".intercalate (ts.map written)

lemma Spelled.lexical {t : Token} {text : List Char} (h : t.Spelled text) : t.Lexical := by
  cases h with
  | sign s => trivial
  | @word text nonempty letters =>
    cases hw : ofWord (String.ofList text) with
    | keyword k => trivial
    | identifier name =>
      obtain ⟨rfl, hkey⟩ := ofWord_eq_identifier_iff.mp hw
      refine ⟨by simpa using nonempty, by simpa using letters, ?_⟩
      by_contra hs
      obtain ⟨k, hk⟩ := Option.ne_none_iff_exists'.mp hs
      exact hkey k (Keyword.ofSpelling?_eq_some_iff.mp hk).symm
    | _ =>
      have hword := isWord_ofWord (String.ofList text)
      rw [hw] at hword
      cases hword
  | @number c text first digits =>
    exact ⟨by simp, by simpa using digits, by simpa using first⟩
  | illegal _ => trivial

lemma isLetter_of_mem_spelling (k : Keyword) : ∀ c ∈ k.spelling.toList, isLetter c = true := by
  have hall : k.spelling.toList.all isLetter = true := by cases k <;> decide +kernel
  exact List.all_eq_true.mp hall

lemma Lexical.spelled {t : Token} (h : t.Lexical) : t.Spelled t.written.toList := by
  cases t with
  | keyword k =>
    have hword : (ofWord (String.ofList k.spelling.toList)).Spelled k.spelling.toList :=
      .word (by cases k <;> decide) (isLetter_of_mem_spelling k)
    rwa [String.ofList_toList, ofWord_keyword] at hword
  | identifier name =>
    obtain ⟨hne, hletters, hkey⟩ := h
    have hword : (ofWord (String.ofList name.toList)).Spelled name.toList :=
      .word (by simpa using hne) (List.all_eq_true.mp hletters)
    rwa [String.ofList_toList, ofWord, hkey] at hword
  | number digits =>
    obtain ⟨hne, hdigits, hfirst⟩ := h
    have hnonempty : digits.toList ≠ [] := by simpa using hne
    obtain ⟨c, cs, hcs⟩ := List.exists_cons_of_ne_nil hnonempty
    rw [hcs] at hdigits hfirst
    have hnumber := Spelled.number hfirst (List.all_eq_true.mp hdigits)
    rw [← hcs, String.ofList_toList] at hnumber
    exact hnumber
  | sign s => exact .sign s
  | illegal => exact .illegal (by decide +kernel)
  | eof => exact h.elim

end Token

open Token

/-- Tokens written out with blanks between them are read back. -/
theorem exists_reads_spaced {ts : List Token} (h : ∀ t ∈ ts, t.Lexical) (n : ℕ) :
    ∃ ls, Reads n (spaced ts).toList ls ∧ ls.map (·.token) = ts := by
  induction ts generalizing n with
  | nil => exact ⟨[], .blanks (by simp [spaced]), rfl⟩
  | cons t ts ih =>
    obtain ⟨ht, hts⟩ := List.forall_mem_cons.mp h
    cases ts with
    | nil =>
      have hread : Reads n (t.written.toList ++ []) [⟨n, t⟩] :=
        .cons ht.spelled (by simp) (.blanks (by simp))
      exact ⟨_, by simpa [spaced] using hread, rfl⟩
    | cons u us =>
      have hblank : ∀ c ∈ [' '], isBlank c = true := by simp [isBlank]
      obtain ⟨ls, htail, hmap⟩ := ih hts (n + t.written.toList.length + [' '].length)
      have hstop : t.StopsBefore ([' '] ++ (spaced (u :: us)).toList) :=
        stopsBefore_of_isBlank rfl t _
      have hread := Reads.cons ht.spelled hstop (Reads.blanks_append hblank htail)
      exact ⟨_, by simpa [spaced, String.intercalate_cons_cons] using hread, by simp [hmap]⟩

lemma lex_spaced {ts : List Token} (h : ∀ t ∈ ts, t.Lexical) : lex (spaced ts) = ts ++ [.eof] := by
  obtain ⟨ls, hread, hmap⟩ := exists_reads_spaced h 0
  rw [lex_eq_scan, hread.scan_eq, hmap]

lemma exists_lexical_of_lex (source : String) :
    ∃ ts, lex source = ts ++ [.eof] ∧ ∀ t ∈ ts, t.Lexical := by
  obtain ⟨ls, h, hlex⟩ := exists_reads_lexemes source
  refine ⟨ls.map (·.token), by simp [lex, hlex], ?_⟩
  intro t ht
  obtain ⟨l, hl, rfl⟩ := List.mem_map.mp ht
  obtain ⟨_, _, _, -, -, -, spelled, -⟩ := h.exists_text_of_mem hl
  exact spelled.lexical

/-- The lists that lexing gives are those of lexical tokens with the end token last. Such tokens are
read back from their spaced writing, hence so are the tokens of every source. -/
theorem lex_image_and_respelling :
    (∀ ts, (∃ source, lex source = ts) ↔ ∃ us, ts = us ++ [.eof] ∧ ∀ u ∈ us, u.Lexical) ∧
      (∀ us, (∀ u ∈ us, u.Lexical) → lex (spaced us) = us ++ [.eof]) ∧
      ∀ source, lex (spaced (lex source).dropLast) = lex source := by
  refine ⟨fun ts => ⟨?_, ?_⟩, fun us => lex_spaced, fun source => ?_⟩
  · rintro ⟨source, rfl⟩
    exact exists_lexical_of_lex source
  · rintro ⟨us, rfl, hus⟩
    exact ⟨spaced us, lex_spaced hus⟩
  · obtain ⟨us, heq, hus⟩ := exists_lexical_of_lex source
    rw [heq, List.dropLast_concat, lex_spaced hus]

theorem lex_spaced_number_word :
    (∀ u ∈ [illegal, keyword .binding, sign .assign, number "5Ⅷ", identifier "Ⅷ"], u.Lexical) ∧
      lex (spaced [illegal, keyword .binding, sign .assign, number "5Ⅷ", identifier "Ⅷ"]) =
        [illegal, keyword .binding, sign .assign, number "5Ⅷ", identifier "Ⅷ", eof] :=
  ⟨by decide +kernel, lex_image_and_respelling.2.1 _ (by decide +kernel)⟩

end ScriptLexer
