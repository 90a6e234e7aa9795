import InventoryQuery.CommandLine.Arguments
import Mathlib.Data.List.Induction
import Mathlib.Tactic.SplitIfs

/-!
# Options among words

The options of a command line may be written in several ways and may stand anywhere among its words.
Reading them sets each option in its turn, so that only the values of each option matter and their
order: options that are set one after the other are those with these values, and so are options of
which some stand in front of the command.
-/

namespace InventoryQuery.CommandLine

/-- The long name of an option. -/
def Setting.longName : Setting → String
  | .url => "url"
  | .config => "config"
  | .format => "format"
  | .fact => "fact"
  | .context => "context"

/-- The letter of an option, if it has one. -/
def Setting.letter? : Setting → Option Char
  | .url => some 'u'
  | .config => none
  | .format => some 'f'
  | .fact => some 'n'
  | .context => some 'c'

/-- A text does not start with a dash. -/
def IsUndashed (text : String) : Prop := text.toList.head? ≠ some '-'

instance (text : String) : Decidable (IsUndashed text) := instDecidableNot

/-- How an option and its value are written: by its long name or its letter, and with the value in
an argument of its own or joined to the name. Behind a letter no equals sign is needed, but one in
front of the value would be taken for it. -/
inductive Setting.IsWritten (setting : Setting) (value : String) : List String → Prop
  | long : IsWritten setting value ["--" ++ setting.longName, value]
  | longJoined : IsWritten setting value ["--" ++ setting.longName ++ "=" ++ value]
  | short {letter : Char} (hletter : setting.letter? = some letter) :
    IsWritten setting value [String.ofList ['-', letter], value]
  | shortEquals {letter : Char} (hletter : setting.letter? = some letter) :
    IsWritten setting value [String.ofList ['-', letter, '='] ++ value]
  | shortJoined {letter : Char} (hletter : setting.letter? = some letter) (hvalue : value ≠ "")
    (hequals : value.toList.head? ≠ some '=') :
    IsWritten setting value [String.ofList ['-', letter] ++ value]

section

variable {setting : Setting} {command : Option Command}

/-- An option that may stand here is one, with its value if that is joined to it. -/
theorem Argument.ofSetting_some (hfor : setting.isFor command = true) (value : Option (List Char)) :
    Argument.ofSetting command (some setting) value =
      match value with
      | some value => .setting setting (String.ofList value)
      | none => .awaiting setting := by
  have hfilter : (some setting).filter (Setting.isFor · command) = some setting := by simp [hfor]
  simp only [Argument.ofSetting, hfilter]
  cases value <;> rfl

/-- A long name is that of its option, and asks for no help. -/
theorem Setting.longName_table (setting : Setting) :
    Setting.ofLongName? setting.longName.toList = some setting ∧
      setting.longName.toList ≠ "help".toList ∧ setting.longName.toList ≠ "version".toList ∧
      ∀ c ∈ setting.longName.toList, c ≠ '=' := by
  cases setting <;> simp [longName, ofLongName?]

/-- An argument with a long name is the option, with what follows an equals sign as its value. -/
theorem Argument.ofText_long {text : String} {rest : List Char}
    (htext : text.toList = '-' :: '-' :: (setting.longName.toList ++ rest))
    (hrest : ∀ c ∈ rest.head?, c = '=') :
    Argument.ofText command text = .ofSetting command (some setting) (valueAfterEquals rest) := by
  obtain ⟨hname, hhelp, hversion, hequals⟩ := setting.longName_table
  have hends : rest.takeWhile (· ≠ '=') = [] ∧ rest.dropWhile (· ≠ '=') = rest := by
    cases rest with
    | nil => exact ⟨rfl, rfl⟩
    | cons c rest =>
      obtain rfl := hrest c rfl
      exact ⟨rfl, rfl⟩
  have htake : (setting.longName.toList ++ rest).takeWhile (· ≠ '=') = setting.longName.toList := by
    rw [List.takeWhile_append_of_pos (by simpa using hequals), hends.1, List.append_nil]
  have hdrop : (setting.longName.toList ++ rest).dropWhile (· ≠ '=') = rest := by
    rw [List.dropWhile_append_of_pos (by simpa using hequals), hends.2]
  rw [Argument.ofText, htext]
  simp only [htake, hdrop, hname, hhelp, hversion, decide_false, Bool.false_and, Bool.false_eq_true,
    if_false]

/-- An argument with a letter is the option, with what follows the letter as its value. -/
theorem Argument.ofText_short {text : String} {letter : Char} {rest : List Char}
    (hletter : setting.letter? = some letter) (htext : text.toList = '-' :: letter :: rest) :
    Argument.ofText command text = .ofSetting command (some setting) (valueAfterShort rest) := by
  rw [Argument.ofText, htext]
  cases setting <;> cases hletter <;> rfl

/-- A text without a dash in front is a word. -/
theorem Argument.ofText_word {text : String} (htext : IsUndashed text) :
    Argument.ofText command text = .word text := by
  rw [IsUndashed] at htext
  rw [Argument.ofText]
  split
  · next h => exact absurd (by rw [h]; rfl) htext
  · next h => exact absurd (by rw [h]; rfl) htext
  · rfl

/-- The two dashes that end the options are no option. -/
theorem ne_dashes_of_ofText {text : String} {argument : Argument}
    (h : Argument.ofText command text = argument) (hknown : argument ≠ .unknown) : text ≠ "--" := by
  rintro rfl
  cases command <;> exact hknown h.symm

/-- A text without a dash in front can be the value of an option. -/
theorem looksLikeOption_of_isUndashed {text : String} (htext : IsUndashed text) :
    looksLikeOption text = false := by
  rw [IsUndashed] at htext
  rw [looksLikeOption]
  split
  · next h => exact absurd (by rw [h]; rfl) htext
  · rfl

/-- An option that may stand here is written as an argument that awaits the value, in front of the
value, or as one with the value. -/
theorem Setting.IsWritten.exists_argument {value : String} {texts : List String}
    (h : setting.IsWritten value texts) (hfor : setting.isFor command = true) :
    ∃ text, (texts = [text, value] ∧ Argument.ofText command text = .awaiting setting ∨
      texts = [text] ∧ Argument.ofText command text = .setting setting value) := by
  cases h with
  | long =>
    have htext : ("--" ++ setting.longName).toList = '-' :: '-' :: (setting.longName.toList ++ []) := by
      simp
    refine ⟨_, .inl ⟨rfl, ?_⟩⟩
    rw [Argument.ofText_long htext (by simp), Argument.ofSetting_some hfor]
    rfl
  | longJoined =>
    have htext : ("--" ++ setting.longName ++ "=" ++ value).toList =
        '-' :: '-' :: (setting.longName.toList ++ '=' :: value.toList) := by simp
    refine ⟨_, .inr ⟨rfl, ?_⟩⟩
    rw [Argument.ofText_long htext (by simp), Argument.ofSetting_some hfor]
    simp [valueAfterEquals]
  | @short letter hletter =>
    have htext : (String.ofList ['-', letter]).toList = ['-', letter] := by simp
    refine ⟨_, .inl ⟨rfl, ?_⟩⟩
    rw [Argument.ofText_short hletter htext, Argument.ofSetting_some hfor]
    rfl
  | @shortEquals letter hletter =>
    have htext : (String.ofList ['-', letter, '='] ++ value).toList =
        '-' :: letter :: '=' :: value.toList := by simp
    refine ⟨_, .inr ⟨rfl, ?_⟩⟩
    rw [Argument.ofText_short hletter htext, Argument.ofSetting_some hfor]
    simp [valueAfterShort]
  | @shortJoined letter hletter hvalue hequals =>
    have htext : (String.ofList ['-', letter] ++ value).toList = '-' :: letter :: value.toList := by
      simp
    have hafter : valueAfterShort value.toList = some value.toList := by
      obtain ⟨c, rest, hrest⟩ := List.exists_cons_of_ne_nil (by simpa using hvalue : value.toList ≠ [])
      rw [hrest] at hequals ⊢
      rw [valueAfterShort]
      · exact List.cons_ne_nil c rest
      · rintro more hmore
        rw [hmore] at hequals
        exact hequals rfl
    refine ⟨_, .inr ⟨rfl, ?_⟩⟩
    rw [Argument.ofText_short hletter htext, Argument.ofSetting_some hfor, hafter]
    simp

end

/-- What is there, or else the wrong use of the program. -/
def orUsage {α : Type} : Option α → Except Stop α
  | some a => .ok a
  | none => .error .usage

section

variable {setting : Setting} {value : String} {texts : List String} (options : Options)
  (rest : List String)

/-- Behind a command, an option is set and the arguments after it are read. -/
theorem readArguments_option {command : Command} (hwritten : setting.IsWritten value texts)
    (hfor : setting.isFor (some command) = true) (hvalue : IsUndashed value) (words : List String) :
    readArguments command options words (texts ++ rest) =
      (orUsage (options.set? setting value)).bind fun options =>
        readArguments command options words rest := by
  obtain ⟨text, ⟨rfl, htext⟩ | ⟨rfl, htext⟩⟩ := hwritten.exists_argument hfor
  · have hdashes : text ≠ "--" := ne_dashes_of_ofText htext nofun
    rw [List.cons_append, List.singleton_append, readArguments, if_neg hdashes, htext]
    simp only [looksLikeOption_of_isUndashed hvalue, Bool.false_eq_true, if_false]
    cases options.set? setting value <;> rfl
  · have hdashes : text ≠ "--" := ne_dashes_of_ofText htext nofun
    rw [List.singleton_append, readArguments, if_neg hdashes, htext]
    cases hset : options.set? setting value <;> simp only [hset] <;> rfl

/-- In front of a command, an option is set and the arguments after it are read. -/
theorem readCommand_option (hwritten : setting.IsWritten value texts)
    (hfor : setting.isFor none = true) (hvalue : IsUndashed value) :
    readCommand options (texts ++ rest) =
      (orUsage (options.set? setting value)).bind fun options => readCommand options rest := by
  obtain ⟨text, ⟨rfl, htext⟩ | ⟨rfl, htext⟩⟩ := hwritten.exists_argument hfor
  · have hdashes : text ≠ "--" := ne_dashes_of_ofText htext nofun
    rw [List.cons_append, List.singleton_append, readCommand, if_neg hdashes, htext]
    simp only [looksLikeOption_of_isUndashed hvalue, Bool.false_eq_true, if_false]
    cases options.set? setting value <;> rfl
  · have hdashes : text ≠ "--" := ne_dashes_of_ofText htext nofun
    rw [List.singleton_append, readCommand, if_neg hdashes, htext]
    cases hset : options.set? setting value <;> simp only [hset] <;> rfl

/-- Behind a command, a word is added to those in front of it. -/
theorem readArguments_word {command : Command} {word : String} (hword : IsUndashed word)
    (words : List String) :
    readArguments command options words (word :: rest) =
      readArguments command options (words ++ [word]) rest := by
  have htext : Argument.ofText (some command) word = .word word := Argument.ofText_word hword
  rw [readArguments, if_neg (ne_dashes_of_ofText htext nofun), htext]

end

/-- Options with their values and words, mixed in any order. -/
inductive IsMixed : (given : List (Setting × String)) → (words arguments : List String) → Prop
  | nil : IsMixed [] [] []
  /-- A word is an argument. -/
  | word {given : List (Setting × String)} {word : String} {words arguments : List String}
    (hrest : IsMixed given words arguments) : IsMixed given (word :: words) (word :: arguments)
  /-- An option is written in one of its ways. -/
  | option {setting : Setting} {value : String} {texts : List String}
    {given : List (Setting × String)} {words arguments : List String}
    (hwritten : setting.IsWritten value texts) (hrest : IsMixed given words arguments) :
    IsMixed ((setting, value) :: given) words (texts ++ arguments)

/-- Options in front of words are mixed with them. -/
theorem exists_isMixed (given : List (Setting × String)) (words : List String) :
    ∃ arguments, IsMixed given words arguments := by
  induction given with
  | nil =>
    induction words with
    | nil => exact ⟨[], .nil⟩
    | cons word words ih =>
      obtain ⟨arguments, hmixed⟩ := ih
      exact ⟨word :: arguments, .word hmixed⟩
  | cons pair given ih =>
    obtain ⟨arguments, hmixed⟩ := ih
    exact ⟨_, .option .long hmixed⟩

/-- Whether options may stand behind a command, or before any, with values that can stand apart. -/
def AreUsable (command : Option Command) (given : List (Setting × String)) : Prop :=
  ∀ pair ∈ given, pair.1.isFor command = true ∧ IsUndashed pair.2

/-- The options with some values set one after the other. -/
def Options.setAll? (options : Options) (given : List (Setting × String)) : Option Options :=
  given.foldlM (fun options pair => options.set? pair.1 pair.2) options

/-- Behind a command, options are set in their order wherever the words stand among them. -/
theorem IsMixed.readArguments_eq {given : List (Setting × String)} {words arguments : List String}
    (h : IsMixed given words arguments) {command : Command} (hgiven : AreUsable (some command) given)
    (hwords : ∀ word ∈ words, IsUndashed word) (options : Options) (before : List String) :
    readArguments command options before arguments =
      (orUsage (options.setAll? given)).map fun options => (options, before ++ words) := by
  induction h generalizing options before with
  | nil => rw [readArguments, List.append_nil]; rfl
  | word _ ih =>
    obtain ⟨hword, hwords⟩ := List.forall_mem_cons.mp hwords
    rw [readArguments_word options _ hword, ih hgiven hwords, List.append_assoc,
      List.singleton_append]
  | @option setting value texts given words arguments hwritten _ ih =>
    obtain ⟨⟨hfor, hvalue⟩, hmore⟩ := List.forall_mem_cons.mp hgiven
    rw [readArguments_option options arguments hwritten hfor hvalue, Options.setAll?,
      List.foldlM_cons]
    cases hset : options.set? setting value with
    | none => rfl
    | some changed => exact ih hmore hwords changed before

/-- The name of a command does not start with a dash. -/
theorem isUndashed_of_ofName? {name : String} {command : Command}
    (h : Command.ofName? name = some command) : IsUndashed name := by
  simp only [Command.ofName?, Bool.or_eq_true, decide_eq_true_eq] at h
  split_ifs at h with hnodes hfacts hrender
  · rcases hnodes with rfl | rfl <;> decide
  · rcases hfacts with rfl | rfl <;> decide
  · subst hrender
    decide

/-- In front of a command, options are set in their order. -/
theorem IsMixed.readCommand_eq {given : List (Setting × String)} {words front : List String}
    (h : IsMixed given words front) (hwords : words = []) (hgiven : AreUsable none given)
    {name : String} {command : Command} (hname : Command.ofName? name = some command)
    (options : Options) (behind : List String) :
    readCommand options (front ++ name :: behind) =
      (orUsage (options.setAll? given)).map fun options => (options, command, behind) := by
  induction h generalizing options with
  | nil =>
    have hword : Argument.ofText none name = .word name :=
      Argument.ofText_word (isUndashed_of_ofName? hname)
    rw [List.nil_append, readCommand, if_neg (ne_dashes_of_ofText hword nofun), hword]
    simp only [hname]
    rfl
  | word _ _ => exact absurd hwords (List.cons_ne_nil _ _)
  | @option setting value texts given words arguments hwritten _ ih =>
    obtain ⟨⟨hfor, hvalue⟩, hmore⟩ := List.forall_mem_cons.mp hgiven
    rw [List.append_assoc, readCommand_option options _ hwritten hfor hvalue, Options.setAll?,
      List.foldlM_cons]
    cases hset : options.set? setting value with
    | none => rfl
    | some changed => exact ih hwords hmore changed

/-- The values of one option, in their order. -/
def valuesOf (setting : Setting) (given : List (Setting × String)) : List String :=
  given.filterMap fun pair => if pair.1 = setting then some pair.2 else none

/-- The values of an option that is given at most once: the value, if there is one and it can be
read. -/
def soleValue? {α : Type} (read : String → Option α) : List String → Option (Option α)
  | [] => some none
  | [value] => (read value).map some
  | _ => none

@[simp] theorem soleValue?_nil {α : Type} (read : String → Option α) :
    soleValue? read [] = some none := rfl

/-- The path of a configuration, which is not empty. -/
def pathOf? (path : String) : Option String := if path.isEmpty then none else some path

/-- The options with the given values for each of them, if each can be read. -/
def Options.ofValues? (values : Setting → List String) : Option Options := do
  let url ← soleValue? some (values .url)
  let config ← soleValue? pathOf? (values .config)
  let format ← soleValue? Format.ofName? (values .format)
  let context ← soleValue? endpointOfName? (values .context)
  return { url, config, format, context, facts := values .fact }

/-- One more value is read when it is the first one. -/
theorem soleValue?_append_singleton {α : Type} (read : String → Option α) (values : List String)
    (value : String) :
    soleValue? read (values ++ [value]) =
      (soleValue? read values).bind fun current =>
        if current.isSome then none else (read value).map some := by
  match values with
  | [] => rfl
  | [first] => cases hfirst : read first <;> simp [soleValue?, hfirst]
  | first :: second :: more => rfl

/-- An option that is set has one more value. -/
theorem Options.ofValues?_bind_set? {values changed : Setting → List String} {setting : Setting}
    {value : String} (hset : changed setting = values setting ++ [value])
    (hothers : ∀ other, other ≠ setting → changed other = values other) :
    (ofValues? values).bind (·.set? setting value) = ofValues? changed := by
  cases setting with
  | url =>
    simp only [ofValues?, hset, hothers .config nofun, hothers .format nofun, hothers .context nofun,
      hothers .fact nofun, soleValue?_append_singleton]
    rcases soleValue? some (values .url) with - | - | url <;> simp [set?, Option.bind_assoc]
  | config =>
    simp only [ofValues?, hset, hothers .url nofun, hothers .format nofun, hothers .context nofun,
      hothers .fact nofun, soleValue?_append_singleton]
    rcases soleValue? pathOf? (values .config) with - | - | config <;>
      cases hempty : value.isEmpty <;> simp [set?, pathOf?, hempty, Option.bind_assoc]
  | format =>
    simp only [ofValues?, hset, hothers .url nofun, hothers .config nofun, hothers .context nofun,
      hothers .fact nofun, soleValue?_append_singleton]
    rcases soleValue? Format.ofName? (values .format) with - | - | format <;>
      cases hname : Format.ofName? value <;> simp [set?, hname, Option.bind_assoc]
  | context =>
    simp only [ofValues?, hset, hothers .url nofun, hothers .config nofun, hothers .format nofun,
      hothers .fact nofun, soleValue?_append_singleton]
    rcases soleValue? endpointOfName? (values .context) with - | - | context <;>
      cases hname : endpointOfName? value <;> simp [set?, hname, Option.bind_assoc]
  | fact =>
    simp only [ofValues?, hset, hothers .url nofun, hothers .config nofun, hothers .format nofun,
      hothers .context nofun]
    simp [set?, Option.bind_assoc]

/-- The values of an option in two lists are those in the first one and then those in the second
one. -/
theorem valuesOf_append (setting : Setting) (given more : List (Setting × String)) :
    valuesOf setting (given ++ more) = valuesOf setting given ++ valuesOf setting more :=
  List.filterMap_append

/-- The values that are given for one option are those of no other. -/
theorem valuesOf_map (setting other : Setting) (values : List String) :
    valuesOf setting (values.map (other, ·)) = if other = setting then values else [] := by
  rw [valuesOf, List.filterMap_map, Function.comp_def]
  by_cases h : other = setting <;> simp [h]

/-- A value of an option is given with it. -/
theorem mem_valuesOf_iff {setting : Setting} {value : String} {given : List (Setting × String)} :
    value ∈ valuesOf setting given ↔ (setting, value) ∈ given := by
  rw [valuesOf, List.mem_filterMap]
  constructor
  · rintro ⟨⟨other, text⟩, hmem, h⟩
    split at h
    · next hsetting =>
      subst hsetting
      obtain rfl := Option.some.inj h
      exact hmem
    · contradiction
  · exact fun hmem => ⟨(setting, value), hmem, if_pos rfl⟩

/-- Options that are set one after the other have the values of each of them. -/
theorem Options.setAll?_eq (given : List (Setting × String)) :
    ({} : Options).setAll? given = ofValues? (valuesOf · given) := by
  induction given using List.reverseRecOn with
  | nil => rfl
  | append_singleton given pair ih =>
    obtain ⟨setting, value⟩ := pair
    have hlast : ({} : Options).setAll? (given ++ [(setting, value)]) =
        (({} : Options).setAll? given).bind (·.set? setting value) := by
      rw [setAll?, List.foldlM_append, ← setAll?]
      simp only [List.foldlM_cons, List.foldlM_nil, bind_pure]
      rfl
    rw [hlast, ih]
    refine ofValues?_bind_set? ?_ fun other hother => ?_
    · rw [valuesOf_append]
      simp [valuesOf]
    · rw [valuesOf_append]
      simp [valuesOf, Ne.symm hother]

/-- The options behind a command, with those in front of it where there are none behind it. -/
def Options.completedBy (after before : Options) : Options :=
  { after with url := after.url <|> before.url, config := after.config <|> before.config }

/-- A task has the options behind its command and then those in front of it. -/
theorem Task.ofCommand_completedBy (command : Command) (before after : Options) (words : List String) :
    Task.ofCommand command {} (after.completedBy before) words = .ofCommand command before after words := by
  simp [Task.ofCommand, Options.completedBy]

/-- The one value of an option is given in front of a command or behind it. -/
theorem soleValue?_append {α : Type} (read : String → Option α) {before after : List String}
    (honce : (before ++ after).length ≤ 1) :
    soleValue? read (before ++ after) =
      (soleValue? read before).bind fun front =>
        (soleValue? read after).map fun behind => behind <|> front := by
  match before, after with
  | [], after => simp
  | [value], [] => cases h : read value <;> simp [soleValue?, h]
  | _ :: _, _ :: _ => simp at honce
  | _ :: _ :: _, [] => simp at honce

/-- The options with values in front of a command and behind it are those behind it, completed by
those in front of it. -/
theorem Options.ofValues?_append {before after : Setting → List String}
    (honce : ∀ setting, setting ≠ .fact → (before setting ++ after setting).length ≤ 1)
    (hbefore : ∀ setting, setting ≠ .url → setting ≠ .config → before setting = []) :
    ofValues? (fun setting => before setting ++ after setting) =
      (ofValues? before).bind fun front => (ofValues? after).map (·.completedBy front) := by
  simp only [ofValues?, soleValue?_append some (honce .url nofun),
    soleValue?_append pathOf? (honce .config nofun), hbefore .format nofun nofun,
    hbefore .context nofun nofun, hbefore .fact nofun nofun, List.nil_append, soleValue?_nil]
  cases soleValue? some (before .url) with
  | none => rfl
  | some url =>
    cases soleValue? pathOf? (before .config) with
    | none => simp
    | some config =>
      cases soleValue? some (after .url) <;> cases soleValue? pathOf? (after .config) <;>
        cases soleValue? Format.ofName? (after .format) <;>
          cases soleValue? endpointOfName? (after .context) <;> rfl

/-- Options of which some stand in front of a command have the values of all of them, when only those
that say where to send a query stand there and none but the names of facts is given twice. -/
theorem Options.ofValues?_valuesOf_append {before after : List (Setting × String)}
    (hbefore : ∀ pair ∈ before, pair.1 = .url ∨ pair.1 = .config)
    (honce : ∀ setting, setting ≠ .fact → (valuesOf setting (before ++ after)).length ≤ 1) :
    ofValues? (valuesOf · (before ++ after)) =
      (({} : Options).setAll? before).bind fun front =>
        (({} : Options).setAll? after).map (·.completedBy front) := by
  simp only [valuesOf_append] at honce ⊢
  rw [setAll?_eq, setAll?_eq]
  refine ofValues?_append honce fun setting hurl hconfig => ?_
  refine List.eq_nil_iff_forall_not_mem.mpr fun value hvalue => ?_
  rcases hbefore _ (mem_valuesOf_iff.mp hvalue) with h | h
  · exact hurl h
  · exact hconfig h

/-- A command line asks for the task of its command with the options behind it, completed by those in
front of it. -/
theorem Task.ofArguments_of_isMixed {before after : List (Setting × String)}
    {front behind words : List String} {name : String} {command : Command}
    (hname : Command.ofName? name = some command) (hfront : IsMixed before [] front)
    (hbehind : IsMixed after words behind) (hbefore : AreUsable none before)
    (hafter : AreUsable (some command) after) (hwords : ∀ word ∈ words, IsUndashed word) :
    Task.ofArguments (front ++ name :: behind) =
      (orUsage ((({} : Options).setAll? before).bind fun front =>
        (({} : Options).setAll? after).map (·.completedBy front))).map fun options =>
          .ofCommand command {} options words := by
  rw [Task.ofArguments, hfront.readCommand_eq rfl hbefore hname]
  cases ({} : Options).setAll? before with
  | none => rfl
  | some frontOptions =>
    change (readArguments command {} [] behind).bind _ = _
    rw [hbehind.readArguments_eq hafter hwords]
    cases ({} : Options).setAll? after with
    | none => rfl
    | some options => exact congrArg Except.ok (Task.ofCommand_completedBy _ frontOptions options words).symm

end InventoryQuery.CommandLine
