import ScriptLexer.Proofs.Escape
import ScriptLexer.Proofs.Run

/-! Help and errors of usage without colour. A rendition is a control sequence of its own, so a
painted text without its sequences is the text of its parts. What a run puts out without colours is
what is left of that with colours, and nothing else about the run changes. -/
namespace ScriptLexer

namespace Terminal

namespace Sequence

/-- The number of a rendition stands within it. -/
lemma remove_function_append {cs : List Char} (h : ∀ c ∈ cs, ∃ k < 10, c = Nat.digitChar k)
    (rest : List Char) : remove function false (cs ++ rest) = remove function false rest := by
  induction cs with
  | nil => rfl
  | cons c cs ih =>
    obtain ⟨k, hk, rfl⟩ := h c List.mem_cons_self
    have hstep : function.shows (Nat.digitChar k) = false ∧
        function.after (Nat.digitChar k) = function := by
      interval_cases k <;> decide
    simp [remove, hstep, ih fun d hd => h d (List.mem_cons_of_mem _ hd)]

/-- A rendition leaves nothing, and what follows it stands outside again. -/
lemma remove_rendition_append (n : ℕ) (rest : List Char) :
    remove outside false (("\x1b[" ++ toString n ++ "m").toList ++ rest) =
      remove outside false rest := by
  have hdigits : ∀ c ∈ (toString n).toList, ∃ k < 10, c = Nat.digitChar k := by
    intro c hc
    rw [Nat.toString_eq_ofList_toDigits, String.toList_ofList] at hc
    exact Text.exists_digitChar_of_mem_toDigits (by decide) hc
  have hopen (cs : List Char) :
      remove outside false ("\x1b[".toList ++ cs) = remove function false cs := rfl
  have hclose : remove function false ("m".toList ++ rest) = remove outside false rest := rfl
  rw [String.toList_append, String.toList_append, List.append_assoc, List.append_assoc, hopen,
    remove_function_append hdigits, hclose]

lemma remove_renditions_append (renditions : List ℕ) (rest : List Char) :
    remove outside false
        ((String.join (renditions.map fun n => "\x1b[" ++ toString n ++ "m")).toList ++ rest) =
      remove outside false rest := by
  induction renditions with
  | nil => rfl
  | cons n renditions ih =>
    rw [List.map_cons, String.join_cons, String.toList_append, List.append_assoc,
      remove_rendition_append, ih]

end Sequence

section Painted
variable {p : Part} {s : Styled}

lemma Part.remove_painted_append (h : ∀ c ∈ p.text.toList, Sequence.outside.shows c)
    (rest : List Char) : Sequence.remove .outside false (p.painted.toList ++ rest) =
      p.text.toList ++ Sequence.remove .outside false rest := by
  have hreset (cs : List Char) : Sequence.remove .outside false ("\x1b[0m".toList ++ cs) =
      Sequence.remove .outside false cs := rfl
  unfold painted
  split
  next => exact Sequence.remove_outside_append h rest
  next =>
    rw [paint, String.toList_append, String.toList_append, List.append_assoc, List.append_assoc,
      Sequence.remove_renditions_append, Sequence.remove_outside_append h, hreset]

/-- Without colour a text is that of its parts, if a terminal shows all of these. -/
theorem Styled.render_false (h : ∀ p ∈ s, ∀ c ∈ p.text.toList, Sequence.outside.shows c) :
    s.render false = String.join (s.map (·.text)) := by
  have hremove : Sequence.remove .outside false s.painted.toList =
      (String.join (s.map (·.text))).toList := by
    induction s with
    | nil => rfl
    | cons p s ih =>
      rw [Styled.painted, List.map_cons, String.join_cons, String.toList_append,
        Part.remove_painted_append (h p List.mem_cons_self), List.map_cons, String.join_cons,
        String.toList_append]
      exact congrArg _ (ih fun q hq => h q (List.mem_cons_of_mem p hq))
  rw [Styled.render, if_neg Bool.false_ne_true, plain, hremove, String.ofList_toList]

example : Styled.render [.failure "error:", " unexpected argument '", .invalid "-x", "' found"]
    false = "error: unexpected argument '-x' found" := by
  decide +kernel

/-- Without its sequences a text is the same in both renderings. -/
theorem Styled.plain_render (s : Styled) (colour : Bool) :
    plain (s.render colour) = s.render false := by
  cases colour with
  | false => exact plain_plain s.painted
  | true => rfl

end Painted
end Terminal

namespace Command
variable {time : String} {arguments : List String} {env : Environment}
  {readFile : String → Except ReadFault String}

/-- The variables without the one that asks for colours. -/
def Environment.uncoloured (env : Environment) : Environment := { env with coloured := none }

/-- What is asked for does not depend on the variables that settle the colours. -/
lemma asked_uncoloured : asked arguments env.uncoloured = asked arguments env := rfl

/-- Without colours a run that comes to no source puts out what is left of its texts without
control sequences; one on a source stays as it is. -/
theorem run_uncoloured :
    let outcome := run time arguments env readFile
    run time arguments env.uncoloured readFile =
      match asked arguments env with
      | .settled _ => outcome
      | _ => ⟨outcome.exitCode, Terminal.plain outcome.stdout, Terminal.plain outcome.stderr⟩ := by
  intro outcome
  have houtcome : outcome = _ := run_eq
  rw [houtcome, run_eq, asked_uncoloured]
  cases asked arguments env with
  | misused e => exact congrArg (Outcome.mk 2 "") (e.message.plain_render env.hasColour).symm
  | shown text => exact congrArg (Outcome.mk 0 · "") (text.plain_render env.hasColour).symm
  | settled s => rfl

/-- Help and errors of usage without colour have no control sequence in them, whatever the arguments
and the variables that they quote. -/
theorem shows_of_mem_run (hasked : ∀ s, asked arguments env ≠ .settled s)
    (hcolour : env.hasColour = false) {c : Char}
    (hc : c ∈ (run time arguments env readFile).stdout.toList ∨
      c ∈ (run time arguments env readFile).stderr.toList) :
    Terminal.Sequence.outside.shows c := by
  rw [run_eq, hcolour] at hc
  cases h : asked arguments env with
  | misused e =>
    rw [h] at hc
    exact Terminal.shows_of_mem_plain (hc.resolve_left List.not_mem_nil)
  | shown text =>
    rw [h] at hc
    exact Terminal.shows_of_mem_plain (hc.resolve_right List.not_mem_nil)
  | settled s => exact absurd h (hasked s)

end Command
end ScriptLexer
