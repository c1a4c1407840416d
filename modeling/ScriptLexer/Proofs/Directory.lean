import ScriptLexer.Command.Directory
import ScriptLexer.Proofs.Run

/-! What a run reads of the files it is given. The walk along a path goes down one directory a name
and comes to the file, so the path of a given file reads its text; and no walk comes to content that
nobody gave. -/
namespace ScriptLexer.Command

namespace Directory

/-- No file stands where another one has a directory or stands itself. -/
def Consistent (d : Directory) : Prop :=
  ∀ f ∈ d.files, ∀ g ∈ d.files, f.1 <+: g.1 → f = g

/-- A name that is looked up, and can be. -/
structure IsPlainName (name : String) : Prop where
  ne_empty : name ≠ ""
  ne_dot : name ≠ "."
  ne_dots : name ≠ ".."
  size_le : name.utf8ByteSize ≤ maxNameSize

/-- One of the files stands under the path, which leads there name by name. -/
structure Gives (files : List (String × ByteArray)) (path : String) (content : ByteArray) :
    Prop where
  mem : (path, content) ∈ files
  plain : ∀ name ∈ names path, IsPlainName name
  size_le : path.utf8ByteSize ≤ maxPathSize

/-- A place that a walk may come to: if it is a file, its content is given. -/
def IsKnown (d : Directory) : Place → Prop
  | .file content => content = ByteArray.empty ∨ ∃ names, (names, content) ∈ d.files
  | _ => True

variable {d : Directory} {place after : Place} {path : List String} {name : String}
  {content : ByteArray} {files : List (String × ByteArray)}

lemma step_inside (h : IsPlainName name) :
    d.step (.inside path) name = d.enter (.inside path) name := by
  simp [step, h.ne_empty, h.ne_dot, h.ne_dots, Nat.not_lt.mpr h.size_le]

lemma enter_file (hd : d.Consistent) (hf : (path ++ [name], content) ∈ d.files) :
    d.enter (.inside path) name = .ok (.file content) := by
  have hfind : d.files.find? (·.1 == path ++ [name]) = some (path ++ [name], content) := by
    cases h : d.files.find? (·.1 == path ++ [name]) with
    | none =>
      have hnone := List.find?_eq_none.mp h _ hf
      simp at hnone
    | some f =>
      have hname : f.1 = path ++ [name] := by simpa using List.find?_some h
      rw [hd f (List.mem_of_find?_eq_some h) _ hf (by rw [hname])]
  simp only [enter, hfind]

/-- A file further down keeps its directories from being files. -/
lemma enter_directory {rest : List String} (hd : d.Consistent) (hrest : rest ≠ [])
    (hf : (path ++ name :: rest, content) ∈ d.files) :
    d.enter (.inside path) name = .ok (.inside (path ++ [name])) := by
  have hbelow : path ++ [name] <+: path ++ name :: rest := by simp
  have hfind : d.files.find? (·.1 == path ++ [name]) = none := by
    rw [List.find?_eq_none]
    intro f hmem hname
    have hname : f.1 = path ++ [name] := by simpa using hname
    have hsame := congrArg Prod.fst (hd f hmem _ hf (by rwa [hname]))
    rw [hname] at hsame
    simp [hrest.symm] at hsame
  have hany : d.files.any (fun f => (path ++ [name]).isPrefixOf f.1) = true :=
    List.any_eq_true.mpr ⟨_, hf, List.isPrefixOf_iff_prefix.mpr hbelow⟩
  simp only [enter, hfind, hany, if_true]

/-- From any directory on its way the other names of a file lead to it. -/
lemma foldlM_step_eq_file {rest : List String} (hd : d.Consistent) (hrest : rest ≠ [])
    (hplain : ∀ name ∈ rest, IsPlainName name) (hf : (path ++ rest, content) ∈ d.files) :
    rest.foldlM d.step (.inside path) = .ok (.file content) := by
  induction rest generalizing path with
  | nil => exact absurd rfl hrest
  | cons name rest ih =>
    rw [List.foldlM_cons, step_inside (hplain name List.mem_cons_self)]
    by_cases hlast : rest = []
    · -- the last name is that of the file, any other that of a directory it lies in
      subst hlast
      rw [enter_file hd hf]
      rfl
    · rw [enter_directory hd hlast hf]
      exact ih hlast (fun n hn => hplain n (List.mem_cons_of_mem name hn)) (by simpa using hf)

lemma start_of_plain {all : List String} (h : ∀ name ∈ all, IsPlainName name) :
    start all = (.inside [], all) := by
  fun_cases start all with
  | case1 => exact absurd rfl (h "" List.mem_cons_self).ne_empty
  | case2 => rfl

/-- The path of a given file reads its content, which has to be a text. -/
theorem read_ofFiles {path : String} (hd : (ofFiles files).Consistent)
    (h : Gives files path content) : (ofFiles files).read path = (Place.file content).text := by
  have hne : names path ≠ [] := by simp [names, List.splitOn_ne_nil]
  have hwalk : (ofFiles files).walk path = .ok (.file content) := by
    rw [walk, start_of_plain h.plain]
    exact foldlM_step_eq_file hd hne h.plain (List.mem_map_of_mem h.mem)
  rw [read, if_neg (Nat.not_lt.mpr h.size_le), hwalk]
  rfl

example : (ofFiles [("lib", ByteArray.empty), ("lib.d/a", "x = 1".toUTF8)]).read "lib.d/a" =
    .ok "x = 1" := by
  decide +kernel

lemma fromUTF8?_toUTF8 (text : String) : String.fromUTF8? text.toUTF8 = some text := by
  rw [String.fromUTF8?, String.toUTF8_eq_toByteArray, dif_pos text.isValidUTF8]
  rfl

lemma isKnown_of_enter (h : d.enter place name = .ok after) : d.IsKnown after := by
  revert h
  fun_cases enter d place name with
  | case3 =>
    -- a device, which reads as an empty file
    rintro ⟨⟩
    exact .inl rfl
  | case6 _ _ _ names content hfind =>
    -- a file of the directory
    rintro ⟨⟩
    exact .inr ⟨names, List.mem_of_find?_eq_some hfind⟩
  | _ => rintro ⟨⟩ <;> trivial

lemma isKnown_of_up (h : up place = .ok after) : d.IsKnown after := by
  cases place with
  | inside path =>
    cases h
    split <;> trivial
  | above =>
    cases h
    trivial
  | system path =>
    cases h
    trivial
  | file content => cases h

lemma isKnown_of_step (hplace : d.IsKnown place) (h : d.step place name = .ok after) :
    d.IsKnown after := by
  revert h
  fun_cases step d place name with
  | case1 => exact isKnown_of_up
  | case3 => exact fun h => Except.ok.inj h ▸ hplace
  | case5 => exact isKnown_of_enter
  | _ => rintro ⟨⟩

/-- Wherever a walk comes to, it finds no other content than what is given. -/
lemma isKnown_of_foldlM {all : List String} (hplace : d.IsKnown place)
    (h : all.foldlM d.step place = .ok after) : d.IsKnown after := by
  induction all generalizing place with
  | nil => exact Except.ok.inj h ▸ hplace
  | cons name rest ih =>
    rw [List.foldlM_cons] at h
    cases hstep : d.step place name with
    | error fault => simp [hstep, bind, Except.bind] at h
    | ok next =>
      rw [hstep] at h
      exact ih (isKnown_of_step hplace hstep) h

lemma isKnown_of_walk {path : String} (h : d.walk path = .ok place) : d.IsKnown place := by
  have hstart : d.IsKnown (start (names path)).1 := by
    fun_cases start (names path) <;> trivial
  exact isKnown_of_foldlM hstart h

lemma exists_of_text {text : String} (h : place.text = .ok text) :
    ∃ content, place = .file content ∧ String.fromUTF8? content = some text := by
  revert h
  fun_cases Place.text place with
  | case4 content found hfound =>
    rintro ⟨⟩
    exact ⟨content, rfl, hfound⟩
  | _ => rintro ⟨⟩

/-- A text that is read is that of a given file, or empty as a device is. -/
theorem exists_of_read {path text : String} (h : (ofFiles files).read path = .ok text) :
    text = "" ∨ ∃ f ∈ files, String.fromUTF8? f.2 = some text := by
  rw [read] at h
  split at h
  next => cases h
  next =>
    cases hwalk : (ofFiles files).walk path with
    | error fault =>
      rw [hwalk] at h
      cases h
    | ok place =>
      rw [hwalk] at h
      obtain ⟨content, rfl, htext⟩ := exists_of_text h
      rcases isKnown_of_walk hwalk with rfl | ⟨all, hmem⟩
      · exact .inl (Option.some.inj (htext.symm.trans (fromUTF8?_toUTF8 "")))
      · obtain ⟨f, hf, hcontent⟩ := List.mem_map.mp hmem
        exact .inr ⟨f, hf, (Prod.mk.inj hcontent).2 ▸ htext⟩

end Directory

section Run
open Directory
variable {files : List (String × ByteArray)} {s : Settings} {arguments : List String}
  {env : Environment} {path text : String} {content : ByteArray}

lemma Settings.source_ofFiles (hd : (ofFiles files).Consistent) (h : Gives files path content)
    (hfile : s.file = some path) : s.source (ofFiles files).read =
      match String.fromUTF8? content with
      | some text => .ok (path, text)
      | none => .error (path, .notText) := by
  rw [Settings.source, hfile]
  simp only [read_ofFiles hd h, Place.text]
  cases String.fromUTF8? content <;> rfl

/-- A run on the path of a given file puts out the tokens of its text, unless it is strict and the
text has an illegal character. -/
theorem run_ofFiles (hd : (ofFiles files).Consistent) (h : Gives files path text.toUTF8)
    (hasked : asked arguments env = .settled s) (hfile : s.file = some path)
    (haccepted : s.strict = false ∨ .illegal ∉ lex text) (time : String) :
    let outcome := run time arguments env (ofFiles files).read
    outcome.exitCode = 0 ∧ outcome.stdout = Token.listing (lex text) := by
  have hsource : s.source (ofFiles files).read = .ok (path, text) := by
    rw [Settings.source_ofFiles hd h hfile, fromUTF8?_toUTF8]
  intro outcome
  have houtcome : outcome = s.run time env.logFilter (ofFiles files).read :=
    run_of_settled hasked time (ofFiles files).read
  have hexit : outcome.exitCode = 0 := by
    rw [houtcome, Settings.exitCode_run_eq_zero_iff hsource]
    exact haccepted
  rw [houtcome] at hexit ⊢
  exact ⟨hexit, Settings.stdout_run_eq_listing hsource hexit⟩

/-- A given file whose content is no text cannot be read. -/
theorem run_ofFiles_of_bytes (hd : (ofFiles files).Consistent) (h : Gives files path content)
    (hcontent : String.fromUTF8? content = none) (hasked : asked arguments env = .settled s)
    (hfile : s.file = some path) (time : String) :
    run time arguments env (ofFiles files).read =
      ⟨1, "", Settings.unreadable path .notText⟩ := by
  have hsource : s.source (ofFiles files).read = .error (path, .notText) := by
    rw [Settings.source_ofFiles hd h hfile, hcontent]
  rw [run_of_settled hasked, Settings.run_of_unreadable hsource]

end Run
end ScriptLexer.Command
