import ScriptLexer.Proofs.Lines
import ScriptLexer.Proofs.Scan
import ScriptLexer.Token.Listing

/-! Reading a listing back. A name has no parenthesis in it, so the listed form of a token says which
token it is, whatever text that carries. Between tokens only the line feeds part the listing: it can
be read back as long as no text has one, which no text of a source has. -/
namespace ScriptLexer
open Alphabet

namespace Token

/-- The tokens of a listing, one from each line without its end. -/
def ofListing? (text : String) : Option (List Token) :=
  (lines text.toList).mapM fun l => ofListed? l.dropLast

/-- A listed form belongs to one token, whatever the text of that is. -/
theorem ofListed?_listed (t : Token) : ofListed? t.listed.toList = some t := by
  have hname : ∀ c ∈ t.label.toList, (c != '(') = true := by
    intro c hc
    simpa using (ne_of_mem_label hc).1
  cases h : t.payload? with
  | none =>
    have hform : t.listed.toList = t.label.toList ++ [] := by simp [listed, h]
    rw [ofListed?, hform, takeWhile_append_of_stop hname (by simp),
      dropWhile_append_of_stop hname (by simp)]
    exact find?_bare h
  | some text =>
    rw [ofListed?, toList_listed h, takeWhile_append_of_stop hname (by simp),
      dropWhile_append_of_stop hname (by simp)]
    simp only [List.dropLast_concat, String.ofList_toList]
    exact find?_payload h

lemma listed_injective : Function.Injective listed := by
  intro t u h
  have hform := ofListed?_listed t
  rw [h, ofListed?_listed] at hform
  exact (Option.some.inj hform).symm

lemma spelling?_of_payload? {t : Token} {text : String} (h : t.payload? = some text) :
    t.spelling? = some text ∧ t ≠ .illegal := by
  cases t with
  | identifier name => exact ⟨h, by simp⟩
  | number digits => exact ⟨h, by simp⟩
  | _ => cases h

/-- A text that a token carries has been read, so there is no line feed in it. -/
lemma Spelled.newline_not_mem_payload {t : Token} {cs : List Char} {text : String}
    (h : t.Spelled cs) (htext : t.payload? = some text) : '\n' ∉ text.toList := by
  obtain ⟨hspelling, hi⟩ := spelling?_of_payload? htext
  obtain rfl := Option.some.inj (hspelling.symm.trans (h.spelling?_eq hi))
  intro hmem
  rw [String.toList_ofList] at hmem
  exact absurd (h.isBlank_eq_false _ hmem) (by decide)

lemma newline_not_mem_listed {t : Token} (h : ∀ text ∈ t.payload?, '\n' ∉ text.toList) :
    '\n' ∉ t.listed.toList := by
  have hlabel : '\n' ∉ t.label.toList := fun hmem => (ne_of_mem_label hmem).2 rfl
  cases hp : t.payload? with
  | none => simpa [listed, hp] using hlabel
  | some text => simpa [toList_listed hp, hlabel] using h text hp

lemma toList_listing (ts : List Token) :
    (listing ts).toList = ts.flatMap fun t => t.listed.toList ++ ['\n'] := by
  simp [listing, String.toList_join, List.flatMap_map]

section Lines
variable {ts : List Token} (h : ∀ t ∈ ts, '\n' ∉ t.listed.toList)
include h

/-- Each token has a line of its own. -/
lemma lines_listing :
    lines (listing ts).toList = ts.map fun t => t.listed.toList ++ ['\n'] := by
  rw [toList_listing]
  induction ts with
  | nil => rfl
  | cons t ts ih =>
    obtain ⟨ht, hts⟩ := List.forall_mem_cons.mp h
    rw [List.flatMap_cons, List.append_assoc, List.singleton_append, lines_cons ht, ih hts,
      List.map_cons]

lemma ofListing?_listing : ofListing? (listing ts) = some ts := by
  rw [ofListing?, lines_listing h]
  clear h
  induction ts with
  | nil => rfl
  | cons t ts ih =>
    rw [List.map_cons, List.mapM_cons, ih, List.dropLast_concat, ofListed?_listed]
    rfl

lemma count_newline_listing : (listing ts).toList.count '\n' = ts.length := by
  rw [toList_listing]
  induction ts with
  | nil => rfl
  | cons t ts ih =>
    obtain ⟨ht, hts⟩ := List.forall_mem_cons.mp h
    have hline : (t.listed.toList ++ ['\n']).count '\n' = 1 := by
      rw [List.count_append, List.count_eq_zero_of_not_mem ht, List.count_singleton_self]
    rw [List.flatMap_cons, List.count_append, hline, ih hts, List.length_cons, Nat.add_comm]

end Lines
end Token

open Token

lemma newline_not_mem_payload_of_lex {source : String} {t : Token} (h : t ∈ lex source) :
    ∀ text ∈ t.payload?, '\n' ∉ text.toList := by
  intro text htext
  obtain ⟨ls, hread, hlex⟩ := exists_reads_lexemes source
  rw [lex, hlex, List.map_append, List.mem_append] at h
  rcases h with h | h
  · obtain ⟨l, hl, rfl⟩ := List.mem_map.mp h
    obtain ⟨_, _, _, -, -, -, spelled, -⟩ := hread.exists_text_of_mem hl
    exact spelled.newline_not_mem_payload htext
  · obtain rfl : t = .eof := by simpa using h
    cases htext

/-- The listing of a source can be read back, so two sources with the same listing have the same tokens.
It has a line for each token because no text of a token has a line feed in it, and tokens that are
listed alike are the same, also those of no source. -/
theorem listing_lex_decodable :
    (∀ source, ofListing? (listing (lex source)) = some (lex source)) ∧
      (∀ source source', listing (lex source) = listing (lex source') →
        lex source = lex source') ∧
      (∀ source, (listing (lex source)).toList.count '\n' = (lex source).length) ∧
      (∀ source, ∀ t ∈ lex source, ∀ text ∈ t.payload?, '\n' ∉ text.toList) ∧
      Function.Injective listed := by
  have hplain (source : String) : ∀ t ∈ lex source, '\n' ∉ t.listed.toList :=
    fun t ht => newline_not_mem_listed (newline_not_mem_payload_of_lex ht)
  have hread (source : String) : ofListing? (listing (lex source)) = some (lex source) :=
    ofListing?_listing (hplain source)
  refine ⟨hread, fun source source' heq => ?_, fun source => count_newline_listing (hplain source),
    fun source t => newline_not_mem_payload_of_lex, listed_injective⟩
  have hback := hread source
  rw [heq, hread source'] at hback
  exact (Option.some.inj hback).symm

theorem listing_lex_decodable_words :
    listing (lex "let x\n") = listing (lex "\tlet  x") ∧ lex "let x\n" = lex "\tlet  x" ∧
      identifier "x" ∈ lex "let x\n" ∧ "x" ∈ (identifier "x").payload? ∧ '\n' ∉ "x".toList := by
  have hlisting : listing (lex "let x\n") = listing (lex "\tlet  x") := by decide +kernel
  have hmem : identifier "x" ∈ lex "let x\n" := by decide +kernel
  have hpayload : "x" ∈ (identifier "x").payload? := rfl
  obtain ⟨-, hinjective, -, hpayloads, -⟩ := listing_lex_decodable
  exact ⟨hlisting, hinjective _ _ hlisting, hmem, hpayload, hpayloads _ _ hmem _ hpayload⟩

/-- A text with a line feed could pass for two tokens. -/
example : listing [identifier "a)\nInt(1"] = listing [identifier "a", number "1"] := by
  decide +kernel

end ScriptLexer
