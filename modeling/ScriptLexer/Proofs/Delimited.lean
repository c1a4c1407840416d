import ScriptLexer.Proofs.Tiling

/-! Words and numbers as runs of characters. A scan ends where its class ends, so nothing of the
class follows. Nothing of it stands in front either, unless the token before has taken that
character: then that token is of the other kind, and the character is a letter and a digit. Where no
character is both, the words are the longest runs of letters and the numbers those of digits. -/
namespace ScriptLexer
open Alphabet

/-- The characters from `start` up to `stop` are of a class, and the one behind them is not. -/
structure ClosedRun (p : Char → Bool) (cs : List Char) (start stop : ℕ) : Prop where
  start_lt_stop : start < stop
  all : ∀ i, start ≤ i → i < stop → ∃ c, cs[i]? = some c ∧ p c = true
  behind : ∀ c, cs[stop]? = some c → p c = false

/-- Nor is the one in front of them. -/
structure MaximalRun (p : Char → Bool) (cs : List Char) (start stop : ℕ) : Prop extends
    ClosedRun p cs start stop where
  before : ∀ i c, i + 1 = start → cs[i]? = some c → p c = false

namespace MaximalRun
variable {p : Char → Bool} {cs : List Char} {s e s' e' i : ℕ}

lemma start_le (h : MaximalRun p cs s e) (h' : MaximalRun p cs s' e') (hi : s ≤ i) (hi' : i < e') :
    s ≤ s' := by
  by_contra hlt
  obtain ⟨c, hc, hp⟩ := h'.all (s - 1) (by omega) (by omega)
  have hnot := h.before (s - 1) c (by omega) hc
  simp [hp] at hnot

lemma stop_le (h : MaximalRun p cs s e) (h' : MaximalRun p cs s' e') (hi : s ≤ i) (hi' : i < e') :
    e ≤ e' := by
  by_contra hlt
  obtain ⟨c, hc, hp⟩ := h.all e' (by omega) (by omega)
  have hnot := h'.behind c hc
  simp [hp] at hnot

/-- Two maximal runs with a character in common are the same. -/
theorem eq_of_common (h : MaximalRun p cs s e) (h' : MaximalRun p cs s' e') (hi : s ≤ i)
    (he : i < e) (hi' : s' ≤ i) (he' : i < e') : s = s' ∧ e = e' :=
  ⟨le_antisymm (h.start_le h' hi he') (h'.start_le h hi' he),
    le_antisymm (h.stop_le h' hi he') (h'.stop_le h hi' he)⟩

end MaximalRun

namespace Token
variable {t : Token} {text : List Char} {c : Char}

lemma goesOn_of_isWord (h : t.isWord = true) (c : Char) : t.goesOn c = isLetter c := by
  cases t <;> first | rfl | cases h

lemma goesOn_of_isNumber (h : t.isNumber = true) (c : Char) : t.goesOn c = isDigit c := by
  cases t <;> first | rfl | cases h

lemma isNumber_ofWord (word : String) : (ofWord word).isNumber = false := by
  unfold ofWord
  split <;> rfl

/-- A word is a keyword exactly if it is spelled like one. -/
lemma isKeyword_ofWord_iff {word : String} :
    (ofWord word).isKeyword = true ↔ ∃ k : Keyword, k.spelling = word := by
  unfold ofWord
  split
  next k hk => exact iff_of_true rfl ⟨k, (Keyword.ofSpelling?_eq_some_iff.mp hk).symm⟩
  next hnone =>
    refine iff_of_false (by simp [isKeyword]) ?_
    rintro ⟨k, rfl⟩
    simp at hnone

namespace Spelled

lemma of_isWord (h : t.Spelled text) (ht : t.isWord = true) :
    (∀ c ∈ text, isLetter c = true) ∧ t = ofWord (String.ofList text) := by
  cases h with
  | word _ letters => exact ⟨letters, rfl⟩
  | _ => cases ht

lemma of_isNumber (h : t.Spelled text) (ht : t.isNumber = true) :
    (∀ c ∈ text, isDigit c = true) ∧ (∀ c ∈ text.head?, isLetter c = false) ∧
      t = .number (String.ofList text) := by
  cases h with
  | word _ _ => simp [isNumber_ofWord] at ht
  | number first digits => exact ⟨digits, by simpa using first, rfl⟩
  | _ => cases ht

/-- Letters and digits belong to words and numbers only. -/
lemma isWord_or_isNumber (h : t.Spelled text) (hc : c ∈ text)
    (hclass : isLetter c = true ∨ isDigit c = true) : t.isWord = true ∨ t.isNumber = true := by
  cases h with
  | sign s =>
    obtain ⟨-, hl, hd⟩ := startsSign_classes (startsSign_of_mem_spelling s hc)
    simp [hl, hd] at hclass
  | word _ _ => exact .inl (isWord_ofWord _)
  | number _ _ => exact .inr rfl
  | illegal hi =>
    obtain ⟨-, -, hl, hd⟩ := isIllegal_iff.mp hi
    obtain rfl := List.mem_singleton.mp hc
    simp [hl, hd] at hclass

end Spelled
end Token

namespace Reads
variable {cs : List Char} {ls : List Lexeme} {l : Lexeme}

/-- Of two lexemes one ends before the other starts. -/
lemma stop_le_start_or {m : Lexeme} (h : Reads 0 cs ls) (hm : m ∈ ls) (hl : l ∈ ls) (hne : m ≠ l) :
    m.stop ≤ l.start ∨ l.stop ≤ m.start := by
  have hpairs : ls.Pairwise fun a b => a.stop ≤ b.start ∨ b.stop ≤ a.start :=
    h.pairwise_stop_le_start.imp Or.inl
  have : Std.Symm fun a b : Lexeme => a.stop ≤ b.start ∨ b.stop ≤ a.start := ⟨fun _ _ => Or.symm⟩
  exact hpairs.forall hm hl hne

/-- The text of a lexeme by the indices of its characters. -/
lemma exists_text_at (h : Reads 0 cs ls) (hl : l ∈ ls) :
    ∃ text, l.token.Spelled text ∧ cs.extract l.start l.stop = text ∧ l.start < l.stop ∧
      cs[l.start]? = text.head? ∧
      (∀ i, l.start ≤ i → i < l.stop → ∃ c ∈ text, cs[i]? = some c) ∧
      ∀ c, cs[l.stop]? = some c → l.token.goesOn c = false := by
  obtain ⟨before, text, rest, rfl, hstart, hstop, spelled, stops⟩ := h.exists_text_of_mem hl
  rw [Nat.zero_add] at hstart
  have hpos := List.length_pos_iff.mpr spelled.ne_nil
  refine ⟨text, spelled, ?_, by omega, ?_, fun i hi hlt => ?_, fun c hc => stops c ?_⟩
  · rw [hstop, hstart, extract_middle]
  · rw [hstart, List.getElem?_append_right (Nat.le_refl _), Nat.sub_self,
      List.getElem?_append_left hpos, List.head?_eq_getElem?]
  · refine ⟨text[i - before.length], List.getElem_mem (by omega), ?_⟩
    rw [List.getElem?_append_right (by omega), List.getElem?_append_left (by omega),
      List.getElem?_eq_getElem (by omega)]
  · rw [List.getElem?_append_right (by omega), List.getElem?_append_right (by omega)] at hc
    have hzero : l.stop - before.length - text.length = 0 := by omega
    rwa [hzero, ← List.head?_eq_getElem?] at hc

/-- A letter or digit right in front of a lexeme ends a word or a number that does not go on over the
first character of the lexeme. -/
lemma exists_neighbour (h : Reads 0 cs ls) (hl : l ∈ ls) {i : ℕ} {c : Char}
    (hi : i + 1 = l.start) (hc : cs[i]? = some c) (hclass : isLetter c = true ∨ isDigit c = true) :
    ∃ m ∈ ls, m.stop = l.start ∧ (∀ d, cs[l.start]? = some d → m.token.goesOn d = false) ∧
      (m.token.isWord = true ∧ isLetter c = true ∨
        m.token.isNumber = true ∧ isDigit c = true) := by
  have hblank : isBlank c = false :=
    hclass.elim isBlank_eq_false_of_isLetter isBlank_eq_false_of_isDigit
  obtain ⟨m, hm, hstart, hstop⟩ := h.exists_covering hc hblank
  have hpos := h.start_lt_stop hl
  have hend : m.stop = l.start := by
    rcases h.stop_le_start_or hm hl (by rintro rfl; omega) with hle | hle <;> omega
  obtain ⟨text, spelled, -, -, -, hchars, hbehind⟩ := h.exists_text_at hm
  obtain ⟨c', hmem, hc'⟩ := hchars i (by omega) (by omega)
  obtain rfl := Option.some.inj (hc'.symm.trans hc)
  refine ⟨m, hm, hend, fun d hd => hbehind d (by rwa [hend]), ?_⟩
  rcases spelled.isWord_or_isNumber hmem hclass with hword | hnumber
  · exact .inl ⟨hword, (spelled.of_isWord hword).1 _ hmem⟩
  · exact .inr ⟨hnumber, (spelled.of_isNumber hnumber).1 _ hmem⟩

/-- A token that takes the characters of a class, and goes on over just these, covers a run of it. -/
lemma closedRun_of_goesOn (h : Reads 0 cs ls) (hl : l ∈ ls) {p : Char → Bool}
    (goes : ∀ c, l.token.goesOn c = p c)
    (all : ∀ text, l.token.Spelled text → ∀ c ∈ text, p c = true) :
    ClosedRun p cs l.start l.stop := by
  obtain ⟨text, spelled, -, hpos, -, hchars, hbehind⟩ := h.exists_text_at hl
  refine ⟨hpos, fun i hi hlt => ?_, fun c hc => ?_⟩
  · obtain ⟨c, hmem, hc⟩ := hchars i hi hlt
    exact ⟨c, hc, all text spelled c hmem⟩
  · rw [← goes]
    exact hbehind c hc

/-- A word is a run of letters, and a letter in front of it is a digit too and ends a number. -/
lemma closedRun_of_isWord (h : Reads 0 cs ls) (hl : l ∈ ls) (ht : l.token.isWord = true) :
    ClosedRun isLetter cs l.start l.stop ∧
      ∀ i c, i + 1 = l.start → cs[i]? = some c → isLetter c = true →
        isDigit c = true ∧ ∃ m ∈ ls, m.token.isNumber = true ∧ m.stop = l.start := by
  have hrun := h.closedRun_of_goesOn hl (Token.goesOn_of_isWord ht) fun _ spelled =>
    (spelled.of_isWord ht).1
  refine ⟨hrun, fun i c hi hc hletter => ?_⟩
  obtain ⟨m, hm, hstop, hgoes, ⟨hword, -⟩ | ⟨hnumber, hdigit⟩⟩ :=
    h.exists_neighbour hl hi hc (.inl hletter)
  · -- a word in front would have gone on over the first letter of this one
    obtain ⟨d, hd, hfirst⟩ := hrun.all l.start le_rfl hrun.start_lt_stop
    have hnot := hgoes d hd
    rw [Token.goesOn_of_isWord hword, hfirst] at hnot
    cases hnot
  · exact ⟨hdigit, m, hm, hnumber, hstop⟩

/-- A number is a run of digits that starts with no letter, and a digit in front of it is a letter too
and ends a word. -/
lemma closedRun_of_isNumber (h : Reads 0 cs ls) (hl : l ∈ ls) (ht : l.token.isNumber = true) :
    (∃ c, cs[l.start]? = some c ∧ isDigit c = true ∧ isLetter c = false) ∧
      ClosedRun isDigit cs l.start l.stop ∧
      ∀ i c, i + 1 = l.start → cs[i]? = some c → isDigit c = true →
        isLetter c = true ∧ ∃ m ∈ ls, m.token.isWord = true ∧ m.stop = l.start := by
  have hrun := h.closedRun_of_goesOn hl (Token.goesOn_of_isNumber ht) fun _ spelled =>
    (spelled.of_isNumber ht).1
  obtain ⟨d, hd, hdigit⟩ := hrun.all l.start le_rfl hrun.start_lt_stop
  obtain ⟨text, spelled, -, -, hhead, -, -⟩ := h.exists_text_at hl
  have hfirst := (spelled.of_isNumber ht).2.1 d (hhead ▸ hd)
  refine ⟨⟨d, hd, hdigit, hfirst⟩, hrun, fun i c hi hc hbefore => ?_⟩
  obtain ⟨m, hm, hstop, hgoes, ⟨hword, hletter⟩ | ⟨hnumber, -⟩⟩ :=
    h.exists_neighbour hl hi hc (.inr hbefore)
  · exact ⟨hletter, m, hm, hword, hstop⟩
  · have hnot := hgoes d hd
    rw [Token.goesOn_of_isNumber hnumber, hdigit] at hnot
    cases hnot

/-- If the tokens of a kind cover maximal runs of a class, and no others a character of it, then they
are all of its maximal runs, each with the text of its run. -/
lemma kind_and_mem_iff (h : Reads 0 cs ls) {p : Char → Bool} {kind : Token → Bool}
    {ofText : String → Token}
    (covers : ∀ l ∈ ls, kind l.token = true → MaximalRun p cs l.start l.stop)
    (only : ∀ {t text}, t.Spelled text → ∀ c ∈ text, c ∈ cs → p c = true → kind t = true)
    (eq_ofText : ∀ {t text}, t.Spelled text → kind t = true → t = ofText (String.ofList text))
    (blank : ∀ c, p c = true → isBlank c = false) (s : ℕ) (t : Token) :
    kind t = true ∧ ⟨s, t⟩ ∈ ls ↔
      ∃ e, MaximalRun p cs s e ∧ t = ofText (String.ofList (cs.extract s e)) := by
  constructor
  · rintro ⟨ht, hl⟩
    obtain ⟨text, spelled, rfl, -⟩ := h.exists_text_at hl
    exact ⟨_, covers _ hl ht, eq_ofText spelled ht⟩
  · rintro ⟨e, hrun, rfl⟩
    -- the lexeme that covers the first character of the run is of the kind, hence covers the run
    obtain ⟨c, hc, hp⟩ := hrun.all s le_rfl hrun.start_lt_stop
    obtain ⟨l, hl, hstart, hstop⟩ := h.exists_covering hc (blank c hp)
    rw [Nat.zero_add] at hstart hstop
    obtain ⟨text, spelled, rfl, -, -, hchars, -⟩ := h.exists_text_at hl
    obtain ⟨c', hmem, hc'⟩ := hchars s hstart hstop
    obtain rfl := Option.some.inj (hc'.symm.trans hc)
    have hkind := only spelled _ hmem (List.mem_of_getElem? hc) hp
    obtain ⟨rfl, rfl⟩ :=
      (covers l hl hkind).eq_of_common hrun hstart hstop le_rfl hrun.start_lt_stop
    rw [← eq_ofText spelled hkind]
    exact ⟨hkind, hl⟩

section Plain
variable (h : Reads 0 cs ls) (plain : ∀ c ∈ cs, isLetter c = true → isDigit c = false)
include h plain

lemma maximalRun_of_isWord (hl : l ∈ ls) (ht : l.token.isWord = true) :
    MaximalRun isLetter cs l.start l.stop := by
  obtain ⟨hrun, hfront⟩ := h.closedRun_of_isWord hl ht
  refine ⟨hrun, fun i c hi hc => ?_⟩
  by_contra hnot
  have hletter : isLetter c = true := by simpa using hnot
  have hdigit := (hfront i c hi hc hletter).1
  simp [plain c (List.mem_of_getElem? hc) hletter] at hdigit

lemma maximalRun_of_isNumber (hl : l ∈ ls) (ht : l.token.isNumber = true) :
    MaximalRun isDigit cs l.start l.stop := by
  obtain ⟨-, hrun, hfront⟩ := h.closedRun_of_isNumber hl ht
  refine ⟨hrun, fun i c hi hc => ?_⟩
  by_contra hdigit
  have hletter := (hfront i c hi hc (by simpa using hdigit)).1
  exact hdigit (plain c (List.mem_of_getElem? hc) hletter)

/-- The words are the maximal runs of letters. -/
lemma isWord_and_mem_iff (s : ℕ) (t : Token) : t.isWord = true ∧ ⟨s, t⟩ ∈ ls ↔
    ∃ e, MaximalRun isLetter cs s e ∧ t = .ofWord (String.ofList (cs.extract s e)) := by
  apply h.kind_and_mem_iff (fun l => h.maximalRun_of_isWord plain)
  · intro t text spelled c hc hmem hletter
    refine (spelled.isWord_or_isNumber hc (.inl hletter)).resolve_right fun hnumber => ?_
    have hdigit := (spelled.of_isNumber hnumber).1 c hc
    simp [plain c hmem hletter] at hdigit
  · intro t text spelled ht
    exact (spelled.of_isWord ht).2
  · intro c
    exact isBlank_eq_false_of_isLetter

/-- The numbers are the maximal runs of digits. -/
lemma isNumber_and_mem_iff (s : ℕ) (t : Token) : t.isNumber = true ∧ ⟨s, t⟩ ∈ ls ↔
    ∃ e, MaximalRun isDigit cs s e ∧ t = .number (String.ofList (cs.extract s e)) := by
  apply h.kind_and_mem_iff (fun l => h.maximalRun_of_isNumber plain)
  · intro t text spelled c hc hmem hdigit
    refine (spelled.isWord_or_isNumber hc (.inr hdigit)).resolve_left fun hword => ?_
    have hletter := (spelled.of_isWord hword).1 c hc
    simp [plain c hmem hletter] at hdigit
  · intro t text spelled ht
    exact (spelled.of_isNumber ht).2.2
  · intro c
    exact isBlank_eq_false_of_isDigit

end Plain
end Reads

/-- A word is a run of letters that no letter follows, and a letter right in front of it is also a
digit and the last character of a number. A number is a run of digits that no digit follows, its
first character is no letter, and a digit right in front of it is also a letter and the last character
of a word. So if no character of the source is a letter and a digit, its words are exactly its maximal
runs of letters and its numbers those of digits. A run of letters is a keyword exactly if it is
spelled like one. -/
theorem words_numbers_delimited (source : String) :
    (∀ l ∈ lexemes source, l.token.isWord = true →
      ClosedRun isLetter source.toList l.start l.stop ∧
        ∀ i c, i + 1 = l.start → source.toList[i]? = some c → isLetter c = true →
          isDigit c = true ∧ ∃ m ∈ lexemes source, m.token.isNumber = true ∧ m.stop = l.start) ∧
    (∀ l ∈ lexemes source, l.token.isNumber = true →
      (∃ c, source.toList[l.start]? = some c ∧ isDigit c = true ∧ isLetter c = false) ∧
        ClosedRun isDigit source.toList l.start l.stop ∧
        ∀ i c, i + 1 = l.start → source.toList[i]? = some c → isDigit c = true →
          isLetter c = true ∧ ∃ m ∈ lexemes source, m.token.isWord = true ∧ m.stop = l.start) ∧
    ((∀ c ∈ source.toList, isLetter c = true → isDigit c = false) → ∀ s t,
      (t.isWord = true ∧ ⟨s, t⟩ ∈ lexemes source ↔ ∃ e, MaximalRun isLetter source.toList s e ∧
        t = .ofWord (String.ofList (source.toList.extract s e))) ∧
      (t.isNumber = true ∧ ⟨s, t⟩ ∈ lexemes source ↔ ∃ e, MaximalRun isDigit source.toList s e ∧
        t = .number (String.ofList (source.toList.extract s e)))) ∧
    ∀ word, (Token.ofWord word).isKeyword = true ↔ ∃ k : Keyword, k.spelling = word := by
  obtain ⟨ls, h, hlex⟩ := exists_reads_lexemes source
  have hmem (l : Lexeme) (hne : l.token ≠ .eof) : l ∈ lexemes source ↔ l ∈ ls := by
    rw [hlex, List.mem_append, List.mem_singleton, or_iff_left]
    rintro rfl
    exact hne rfl
  have hword {t : Token} (ht : t.isWord = true) : t ≠ .eof := by
    rintro rfl
    cases ht
  have hnumber {t : Token} (ht : t.isNumber = true) : t ≠ .eof := by
    rintro rfl
    cases ht
  refine ⟨fun l hl ht => ?_, fun l hl ht => ?_, fun plain s t => ⟨?_, ?_⟩,
    fun word => Token.isKeyword_ofWord_iff⟩
  · obtain ⟨hrun, hfront⟩ := h.closedRun_of_isWord ((hmem l (hword ht)).mp hl) ht
    refine ⟨hrun, fun i c hi hc hletter => ?_⟩
    obtain ⟨hdigit, m, hm, hkind, hstop⟩ := hfront i c hi hc hletter
    exact ⟨hdigit, m, (hmem m (hnumber hkind)).mpr hm, hkind, hstop⟩
  · obtain ⟨hfirst, hrun, hfront⟩ := h.closedRun_of_isNumber ((hmem l (hnumber ht)).mp hl) ht
    refine ⟨hfirst, hrun, fun i c hi hc hdigit => ?_⟩
    obtain ⟨hletter, m, hm, hkind, hstop⟩ := hfront i c hi hc hdigit
    exact ⟨hletter, m, (hmem m (hword hkind)).mpr hm, hkind, hstop⟩
  · rw [← h.isWord_and_mem_iff plain s t]
    exact and_congr_right fun ht => hmem _ (hword ht)
  · rw [← h.isNumber_and_mem_iff plain s t]
    exact and_congr_right fun ht => hmem _ (hnumber ht)

/-- Roman numerals at the end of a word and of a number, and a source without such characters. -/
theorem words_numbers_delimited_numerals :
    (⟨2, .number "1Ⅷ"⟩ ∈ lexemes "aⅧ1Ⅷb" ∧ "aⅧ1Ⅷb".toList[1]? = some 'Ⅷ' ∧
      isLetter 'Ⅷ' = true ∧ ∃ m ∈ lexemes "aⅧ1Ⅷb", m.token.isWord = true ∧ m.stop = 2) ∧
    (⟨4, .identifier "b"⟩ ∈ lexemes "aⅧ1Ⅷb" ∧ "aⅧ1Ⅷb".toList[3]? = some 'Ⅷ' ∧
      isDigit 'Ⅷ' = true ∧ ∃ m ∈ lexemes "aⅧ1Ⅷb", m.token.isNumber = true ∧ m.stop = 4) ∧
    ((∀ c ∈ "let x1".toList, isLetter c = true → isDigit c = false) ∧
      ⟨0, .keyword .binding⟩ ∈ lexemes "let x1" ∧
      ∃ e, MaximalRun isLetter "let x1".toList 0 e ∧
        .keyword .binding = Token.ofWord (String.ofList ("let x1".toList.extract 0 e))) := by
  have hnumber : ⟨2, .number "1Ⅷ"⟩ ∈ lexemes "aⅧ1Ⅷb" := by decide +kernel
  have hword : ⟨4, .identifier "b"⟩ ∈ lexemes "aⅧ1Ⅷb" := by decide +kernel
  have hkeyword : ⟨0, .keyword .binding⟩ ∈ lexemes "let x1" := by decide +kernel
  have hplain : ∀ c ∈ "let x1".toList, isLetter c = true → isDigit c = false := by
    have hall : "let x1".toList.all (fun c => !isLetter c || !isDigit c) = true := by decide +kernel
    intro c hc hletter
    simpa [hletter] using List.all_eq_true.mp hall c hc
  obtain ⟨hwords, hnumbers, -⟩ := words_numbers_delimited "aⅧ1Ⅷb"
  obtain ⟨hletter, hm⟩ :=
    (hnumbers _ hnumber rfl).2.2 1 'Ⅷ' rfl (by decide) (by decide +kernel)
  obtain ⟨hdigit, hm'⟩ := (hwords _ hword rfl).2 3 'Ⅷ' rfl (by decide) (by decide +kernel)
  obtain ⟨hiff, -⟩ := (words_numbers_delimited "let x1").2.2.1 hplain 0 (.keyword .binding)
  exact ⟨⟨hnumber, by decide, hletter, hm⟩, ⟨hword, by decide, hdigit, hm'⟩,
    hplain, hkeyword, hiff.mp ⟨rfl, hkeyword⟩⟩

end ScriptLexer
