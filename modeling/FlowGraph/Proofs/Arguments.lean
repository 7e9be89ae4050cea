import FlowGraph.Proofs.Placeholders
import FlowGraph.Step.RunCommand

/-!
# The arguments that a command gets

The step that runs a command expands the placeholders of its arguments and then splits the text
that comes of it into words. No placeholder holds a blank character, so every word of the template
comes to the words of what it expands to, and nothing runs from one word into the next. That is one
argument for each word as long as what is put in is a word; a value with blank characters in it is
torn into several arguments, and a word of which nothing is left is no argument at all.
-/

namespace FlowGraph

namespace Text

/-- The text is one word: it is not empty and holds no blank character. -/
structure IsWord (s : String) : Prop where
  given : s ≠ ""
  solid : ∀ c ∈ s.toList, isBlank c = false

instance (s : String) : Decidable (IsWord s) :=
  decidable_of_iff (s ≠ "" ∧ s.toList.any isBlank = false)
    ⟨fun h => ⟨h.1, solid_of_any h.2⟩, fun h => ⟨h.given, by simpa using h.solid⟩⟩

/-! ## Words of a text -/

/-- **A blank character ends a word** and belongs to none. -/
theorem wordsFrom_append_blank {c : Char} (blank : isBlank c = true) (word front back : List Char) :
    wordsFrom word (front ++ c :: back) = wordsFrom word front ++ wordsFrom [] back := by
  fun_induction wordsFrom word front with
  | case1 word none => rw [List.nil_append, wordsFrom, if_pos blank, if_pos none, List.nil_append]
  | case2 word some =>
    rw [List.nil_append, wordsFrom, if_pos blank, if_neg some]
    rfl
  | case3 word d front ends none ih =>
    rw [List.cons_append, wordsFrom, if_pos ends, if_pos none, ih]
  | case4 word d front ends some ih =>
    rw [List.cons_append, wordsFrom, if_pos ends, if_neg some, ih]
    rfl
  | case5 word d front goes ih => rw [List.cons_append, wordsFrom, if_neg goes, ih]

/-- Characters that are not blank belong to one word. -/
theorem wordsFrom_solid {cs : List Char} (solid : ∀ c ∈ cs, isBlank c = false) (word : List Char) :
    wordsFrom word cs = wordsFrom (cs.reverse ++ word) [] := by
  induction cs generalizing word with
  | nil => rfl
  | cons c cs ih =>
    obtain ⟨goes, solid⟩ := List.forall_mem_cons.1 solid
    have more : wordsFrom word (c :: cs) = wordsFrom (c :: word) cs := by
      rw [wordsFrom, if_neg (Bool.eq_false_iff.1 goes)]
    rw [more, ih solid, List.reverse_cons, List.append_assoc]
    rfl

/-- A word stands somewhere in the text, is not empty and holds no blank character. -/
theorem mem_wordsFrom {w word cs : List Char} (mem : w ∈ wordsFrom word cs)
    (begun : ∀ c ∈ word, isBlank c = false) :
    w ≠ [] ∧ (∀ c ∈ w, isBlank c = false) ∧ w <:+: word.reverse ++ cs := by
  fun_induction wordsFrom word cs with
  | case1 word none => cases mem
  | case2 word some =>
    obtain rfl := List.mem_singleton.1 mem
    refine ⟨by simpa using some, by simpa using begun, ?_⟩
    exact ⟨[], [], by simp⟩
  | case3 word d cs ends none ih =>
    obtain ⟨given, solid, within⟩ := ih mem (by simp)
    refine ⟨given, solid, within.trans ?_⟩
    exact ⟨word.reverse ++ [d], [], by simp⟩
  | case4 word d cs ends some ih =>
    rcases List.mem_cons.1 mem with rfl | mem
    · refine ⟨by simpa using some, by simpa using begun, ?_⟩
      exact ⟨[], d :: cs, rfl⟩
    · obtain ⟨given, solid, within⟩ := ih mem (by simp)
      refine ⟨given, solid, within.trans ?_⟩
      exact ⟨word.reverse ++ [d], [], by simp⟩
  | case5 word d cs goes ih =>
    have goes : isBlank d = false := Bool.eq_false_iff.2 goes
    obtain ⟨given, solid, within⟩ := ih mem (List.forall_mem_cons.2 ⟨goes, begun⟩)
    exact ⟨given, solid, by simpa using within⟩

theorem isWord_of_mem_words {w s : String} (mem : w ∈ words s) : IsWord w := by
  obtain ⟨cs, cut, rfl⟩ := List.mem_map.1 mem
  obtain ⟨given, solid, -⟩ := mem_wordsFrom cut (List.forall_mem_nil _)
  refine ⟨?_, by simpa using solid⟩
  rw [Ne, ← String.toList_eq_nil_iff, String.toList_ofList]
  exact given

/-- A word is cut out of the text. -/
theorem exists_around_of_mem_words {w s : String} (mem : w ∈ words s) :
    ∃ before after : String, s = before ++ w ++ after := by
  obtain ⟨cs, cut, rfl⟩ := List.mem_map.1 mem
  obtain ⟨-, -, before, after, within⟩ := mem_wordsFrom cut (List.forall_mem_nil _)
  refine ⟨.ofList before, .ofList after, ?_⟩
  rw [← String.toList_inj]
  simpa using within.symm

/-- A text is its only word just if it is a word. -/
theorem words_eq_singleton_iff {s : String} : words s = [s] ↔ IsWord s := by
  constructor
  · intro only
    exact isWord_of_mem_words (only ▸ List.mem_singleton_self s)
  · intro word
    have given : s.toList ≠ [] := mt String.toList_eq_nil_iff.1 word.given
    rw [words, wordsFrom_solid word.solid, wordsFrom]
    simp [given]

end Text

namespace Variables

/-! ## Words of an expanded text -/

theorem isBlank_of_isNameChar {c : Char} (other : isNameChar c = true) :
    Text.isBlank c = false := by
  simp only [isNameChar, isNameStart, Bool.or_eq_true, beq_iff_eq] at other
  obtain (((letter | rfl) | digit) | rfl) | rfl := other
  · exact Text.isBlank_of_isAlpha letter
  · rfl
  · exact Text.isBlank_of_isDigit digit
  · rfl
  · rfl

/-- A blank character cannot go on with what an opening brace has begun. -/
theorem extendsName_of_isBlank {c : Char} (blank : Text.isBlank c = true) (name : List Char) :
    extendsName name c = false := by
  rw [← Bool.not_eq_true]
  intro extend
  have other : isNameChar c = true := by
    rw [extendsName] at extend
    split at extend
    · exact isNameChar_of_isNameStart extend
    · exact extend
  rw [isBlank_of_isNameChar other] at blank
  cases blank

section
variable (vars : Variables)

/-- No placeholder reaches over a blank character: its two sides are expanded apart. -/
theorem expandFrom_append_blank {c : Char} (blank : Text.isBlank c = true)
    (pending : Option (List Char)) (front back : List Char) :
    expandFrom vars pending (front ++ c :: back) =
      expandFrom vars pending front ++ c :: expandFrom vars none back := by
  have brace : c ≠ '\x7b' := by
    rintro rfl
    cases blank
  have close : c ≠ '\x7d' := by
    rintro rfl
    cases blank
  fun_induction expandFrom vars pending front with
  | case1 => rw [List.nil_append, expandFrom, if_neg brace, List.nil_append]
  | case2 name =>
    have extend := Bool.eq_false_iff.1 (extendsName_of_isBlank blank name)
    rw [List.nil_append, expandFrom, if_neg brace, if_neg (fun h => close h.1), if_neg extend]
  | case3 cs ih => rw [List.cons_append, expandFrom, if_pos rfl, ih]
  | case4 d cs other ih =>
    rw [List.cons_append, expandFrom, if_neg other, ih]
    rfl
  | case5 name cs ih => rw [List.cons_append, expandFrom, if_pos rfl, ih]; simp
  | case6 name d cs other close ih =>
    rw [List.cons_append, expandFrom, if_neg other, if_pos close, ih]
    simp
  | case7 name d cs other close extend ih =>
    rw [List.cons_append, expandFrom, if_neg other, if_neg close, if_pos extend, ih]
  | case8 name d cs other close extend ih =>
    rw [List.cons_append, expandFrom, if_neg other, if_neg close, if_neg extend, ih]
    simp

/-- **Each word comes to the words of what it expands to.** -/
theorem wordsFrom_expandFrom (word cs : List Char) :
    Text.wordsFrom [] (expandFrom vars none (word.reverse ++ cs)) =
      (Text.wordsFrom word cs).flatMap fun w => Text.wordsFrom [] (expandFrom vars none w) := by
  -- On what is left of the text: the word that has been read so far is expanded together with
  -- what follows it up to the next blank character, where the two come apart.
  fun_induction Text.wordsFrom word cs with
  | case1 word none =>
    obtain rfl := List.isEmpty_iff.1 none
    rfl
  | case2 word some => simp
  | case3 word d cs ends none ih =>
    obtain rfl := List.isEmpty_iff.1 none
    rw [← ih, List.reverse_nil, expandFrom_append_blank vars ends, Text.wordsFrom_append_blank ends]
    rfl
  | case4 word d cs ends some ih =>
    rw [List.flatMap_cons, ← ih, expandFrom_append_blank vars ends,
      Text.wordsFrom_append_blank ends]
    rfl
  | case5 word d cs goes ih =>
    rw [← ih, List.reverse_cons, List.append_assoc]
    rfl

theorem words_expand (text : String) :
    Text.words (vars.expand text) =
      (Text.words text).flatMap fun word => Text.words (vars.expand word) := by
  have words := wordsFrom_expandFrom vars [] text.toList
  rw [List.reverse_nil, List.nil_append] at words
  simp only [Text.words, expand, String.toList_ofList, words, List.map_flatMap, List.flatMap_map]

end

/-- A placeholder of that name stands in the text. -/
def Mentions (text name : String) : Prop :=
  IsName name.toList ∧ ∃ before after : String, text = before ++ placeholder name ++ after

theorem Mentions.before {text name : String} (mentions : Mentions text name) (after : String) :
    Mentions (text ++ after) name := by
  obtain ⟨isName, front, back, rfl⟩ := mentions
  refine ⟨isName, front, back ++ after, ?_⟩
  simp only [String.append_assoc]

theorem Mentions.after {text name : String} (mentions : Mentions text name) (before : String) :
    Mentions (before ++ text) name := by
  obtain ⟨isName, front, back, rfl⟩ := mentions
  refine ⟨isName, before ++ front, back, ?_⟩
  simp only [String.append_assoc]

/-- What stands for a placeholder inside a word is a word if the value that is put in is one. -/
theorem isWord_filling {vars : Variables} {name : String}
    (solid : ∀ c ∈ (placeholder name).toList, Text.isBlank c = false)
    (value : ∀ v, vars.get? name = some v → Text.IsWord v.asText) :
    Text.IsWord (vars.filling name) := by
  rw [filling]
  cases held : vars.get? name with
  | some v => exact value v held
  | none =>
    refine ⟨?_, solid⟩
    intro empty
    have braces := toList_placeholder name
    rw [Option.map_none, Option.getD_none] at empty
    rw [empty] at braces
    cases braces

/-- **A word stays a word** when words are put in for its placeholders. -/
theorem isWord_expand {vars : Variables} {text : String} (word : Text.IsWord text)
    (values : ∀ name v, Mentions text name → vars.get? name = some v → Text.IsWord v.asText) :
    Text.IsWord (vars.expand text) := by
  have fills := fills_expand vars
  suffices both : (∀ c ∈ (vars.expand text).toList, Text.isBlank c = false) ∧
      (vars.expand text = "" → text = "") from ⟨mt both.2 word.given, both.1⟩
  have solid := word.solid
  clear word
  induction text using placeholder_induction with
  | plain text without =>
    rw [fills.plain text without]
    exact ⟨solid, id⟩
  | around before name after isName front back =>
    simp only [String.toList_append, List.forall_mem_append] at solid
    obtain ⟨⟨solidFront, solidName⟩, solidBack⟩ := solid
    have filled := isWord_filling solidName fun v => values name v ⟨isName, before, after, rfl⟩
    have early : ∀ n, Mentions before n → Mentions (before ++ placeholder name ++ after) n := by
      intro n mentions
      rw [String.append_assoc]
      exact mentions.before _
    have front := front (fun n v mentions => values n v (early n mentions)) solidFront
    have back := back (fun n v mentions => values n v (mentions.after _)) solidBack
    rw [fills.around before name after isName]
    refine ⟨?_, fun empty => ?_⟩
    · simp only [String.toList_append, List.forall_mem_append]
      exact ⟨⟨front.1, filled.solid⟩, back.1⟩
    · rw [String.append_eq_empty_iff, String.append_eq_empty_iff] at empty
      exact absurd empty.1.2 filled.given

/-- **Each word comes to itself, expanded,** just if all of them do so to a word. -/
theorem words_expand_eq_map_iff {vars : Variables} {text : String} :
    Text.words (vars.expand text) = (Text.words text).map vars.expand ↔
      ∀ word ∈ Text.words text, Text.IsWord (vars.expand word) := by
  constructor
  · intro same word mem
    have mem : vars.expand word ∈ Text.words (vars.expand text) := by
      rw [same]
      exact List.mem_map_of_mem mem
    exact Text.isWord_of_mem_words mem
  · intro stay
    have single : ∀ word ∈ Text.words text, Text.words (vars.expand word) = [vars.expand word] :=
      fun word mem => Text.words_eq_singleton_iff.2 (stay word mem)
    rw [words_expand, List.map_eq_flatMap, List.flatMap_def, List.flatMap_def,
      List.map_congr_left single]

/-- The words of a text stay words when words are put in for its placeholders. -/
theorem isWord_expand_of_mem_words {vars : Variables} {text word : String}
    (values : ∀ name v, Mentions text name → vars.get? name = some v → Text.IsWord v.asText)
    (mem : word ∈ Text.words text) : Text.IsWord (vars.expand word) := by
  obtain ⟨before, after, rfl⟩ := Text.exists_around_of_mem_words mem
  refine isWord_expand (Text.isWord_of_mem_words mem) ?_
  intro name v mentions
  exact values name v ((mentions.after before).before after)

end Variables

/-! ## The command that is run -/

/-- The step runs this command: on every node of these settings, whatever the commands of the node
do at the moment, the step fails just if this one does not start. -/
def Step.Runs (step : Step) (settings : Settings) (s : Scope) (c : Command) : Prop :=
  ∃ actions, step = .acting actions ∧
    ∀ (moment : Moment) (site : Site) (canceled : Bool), site.settings = settings →
      (((actions moment).run site canceled s).result = .failure ↔
        ∃ e, site.commands moment.clock c = .error e)

/-- A node on which every command starts but this one. -/
def Site.lacking (settings : Settings) (c : Command) : Site :=
  { files := .empty
    settings
    commands := fun _ c' => if c' = c then .error .notFound else .ok ⟨some 0, .empty⟩
    scripts := fun _ _ => ⟨.terminated, none, []⟩ }

/-- A step runs one command at most. -/
theorem Step.Runs.unique {step : Step} {settings : Settings} {s : Scope} {c c' : Command}
    (runs : step.Runs settings s c) (runs' : step.Runs settings s c') : c' = c := by
  obtain ⟨actions, rfl, fails⟩ := runs
  obtain ⟨_, ⟨⟩, fails'⟩ := runs'
  have lacks : ∃ e, (Site.lacking settings c).commands Moment.first.clock c = .error e :=
    ⟨.notFound, if_pos rfl⟩
  obtain ⟨e, lacks'⟩ := (fails' .first _ false rfl).1 ((fails .first _ false rfl).2 lacks)
  by_cases same : c' = c
  · exact same
  · simp [Site.lacking, same] at lacks'

/-- The step that runs a command runs the one that it makes of its settings and the variables. -/
theorem Step.exists_runs_executeCommand (m : Model) (settings : Settings) (s : Scope) :
    ∃ c, (executeCommand m).Runs settings s c ∧
      c.arguments = Text.words (s.vars.expand (m.setting Json.text "Arguments" "")) := by
  refine ⟨commandOf settings s.vars (m.setting Json.text "Command" "")
    (m.setting Json.text "Arguments" ""), ⟨_, rfl, fun moment site canceled same => ?_⟩,
    arguments_commandOf _ _ _ _⟩
  subst same
  dsimp only
  split
  · next e answer => exact iff_of_true rfl ⟨e, answer⟩
  · next ended answer =>
    refine iff_of_false (by simp) ?_
    rintro ⟨e, answer'⟩
    rw [answer] at answer'
    cases answer'

/-- **A command gets the words of its expanded arguments.** The step runs one command, and its
arguments are, word by word and in order, the words of what each word of the template expands to.
So there is one argument for each word, that word expanded, just if every word expands to a word,
as it does if the variables that the template mentions hold words. -/
theorem command_gets_words_of_expanded_arguments (m : Model) (settings : Settings) (s : Scope) :
    let template := m.setting Json.text "Arguments" ""
    ∃ c, (∀ c', (Step.executeCommand m).Runs settings s c' ↔ c' = c) ∧
      c.arguments =
        (Text.words template).flatMap (fun word => Text.words (s.vars.expand word)) ∧
      (c.arguments = (Text.words template).map s.vars.expand ↔
        ∀ word ∈ Text.words template, Text.IsWord (s.vars.expand word)) ∧
      ((∀ name v, Variables.Mentions template name → s.vars.get? name = some v →
          Text.IsWord v.asText) →
        c.arguments = (Text.words template).map s.vars.expand) := by
  intro template
  obtain ⟨c, runs, arguments⟩ := Step.exists_runs_executeCommand m settings s
  have each : c.arguments = (Text.words template).map s.vars.expand ↔
      ∀ word ∈ Text.words template, Text.IsWord (s.vars.expand word) := by
    rw [arguments]
    exact Variables.words_expand_eq_map_iff
  refine ⟨c, fun c' => ⟨runs.unique, ?_⟩, ?_, each, fun values => each.2 ?_⟩
  · rintro rfl
    exact runs
  · rw [arguments]
    exact Variables.words_expand s.vars template
  · intro word mem
    exact Variables.isWord_expand_of_mem_words values mem

namespace Sample

/-- The settings of a step that hands the name of the working file to a script. -/
def handingOver : Model :=
  .ofList [("Command", .str "sh"),
    ("Arguments", .str "count.sh \x7bfile.NameNoExtension\x7d.txt \x7bunset\x7d")]

/-- A working file whose name is one word. -/
def plainFile : Scope := .forFile ⟨"in/film.mkv"⟩ .empty

/-- A working file whose name is two words. -/
def spacedFile : Scope := .forFile ⟨"in/my film.mkv"⟩ .empty

end Sample

/-- All that is known of a file without blank characters is words, so each word of the template is
one argument, also the one that mentions a variable that is not there. -/
theorem arguments_for_plain_file :
    (∀ name v, Sample.plainFile.vars.get? name = some v → Text.IsWord v.asText) ∧
      ∃ c, (Step.executeCommand Sample.handingOver).Runs .default Sample.plainFile c ∧
        c.arguments = ["count.sh", "film.txt", "\x7bunset\x7d"] := by
  have values : ∀ name v, Sample.plainFile.vars.get? name = some v → Text.IsWord v.asText := by
    intro name v found
    have all : ∀ e ∈ Sample.plainFile.vars.entries, Text.IsWord e.2.asText := by decide
    exact all (name, v) (Dict.mem_entries.2 found)
  obtain ⟨c, runs, -, -, one⟩ :=
    command_gets_words_of_expanded_arguments Sample.handingOver .default Sample.plainFile
  refine ⟨values, c, (runs c).2 rfl, ?_⟩
  rw [one fun name v _ => values name v]
  decide

/-- The name of a file becomes two arguments if there is a blank character in it, though the
template has one word for it. -/
theorem spaced_name_is_two_arguments :
    ∃ c, (Step.executeCommand Sample.handingOver).Runs .default Sample.spacedFile c ∧
      c.arguments = ["count.sh", "my", "film.txt", "\x7bunset\x7d"] ∧
      (Text.words (Sample.handingOver.setting Json.text "Arguments" "")).map
          Sample.spacedFile.vars.expand =
        ["count.sh", "my film.txt", "\x7bunset\x7d"] := by
  obtain ⟨c, runs, arguments⟩ :=
    Step.exists_runs_executeCommand Sample.handingOver .default Sample.spacedFile
  refine ⟨c, runs, ?_, by decide⟩
  rw [arguments]
  decide

end FlowGraph
