import InventoryQuery.Proofs.CommandLine.CleanFailure
import InventoryQuery.Proofs.CommandLine.Options

/-!
# Arguments in any order

What a command line asks for is a command, values for its options and the words of a filter. The
options may stand anywhere among the words, and those that say where to send a query may stand in
front of the command as well. As long as the words keep their order, and so do the values of each
option, all ways of writing the command line lead to one run.
-/

namespace InventoryQuery.CommandLine

/-- What a command line asks for: a command, the values of the options that may stand behind it, of
which only the names of facts may be several, and the words of the filter. No value and no word
starts with a dash. -/
structure Choice where
  command : Command
  values : Setting → List String
  words : List String
  values_usable : ∀ setting, values setting ≠ [] → setting.isFor (some command) = true
  values_once : ∀ setting, setting ≠ .fact → (values setting).length ≤ 1
  values_undashed : ∀ setting, ∀ value ∈ values setting, IsUndashed value
  words_undashed : ∀ word ∈ words, IsUndashed word

namespace Choice

/-- The task of a choice; it is wrong to use the program with a value that cannot be read. -/
def task (choice : Choice) : Except Stop Task :=
  (orUsage (Options.ofValues? choice.values)).map fun options =>
    .ofCommand choice.command {} options choice.words

/-- The command lines for a choice: the name of the command has the words behind it in their order,
with options among them, and may have options in front of it that say where to send a query. The
values of each option are in their order. -/
inductive IsWritten (choice : Choice) : List String → Prop
  | arranged {before after : List (Setting × String)} {front behind : List String} {name : String}
    (hname : Command.ofName? name = some choice.command) (hfront : IsMixed before [] front)
    (hbehind : IsMixed after choice.words behind)
    (hbefore : ∀ pair ∈ before, pair.1 = .url ∨ pair.1 = .config)
    (hvalues : ∀ setting, valuesOf setting (before ++ after) = choice.values setting) :
    IsWritten choice (front ++ name :: behind)

variable {choice : Choice}

/-- Arguments for a choice ask for its task. -/
theorem IsWritten.ofArguments_eq {arguments : List String} (h : choice.IsWritten arguments) :
    Task.ofArguments arguments = choice.task := by
  cases h with
  | @arranged before after front behind name hname hfront hbehind hbefore hvalues =>
    have hall : AreUsable (some choice.command) (before ++ after) := fun pair hpair => by
      have hvalue : pair.2 ∈ choice.values pair.1 := hvalues pair.1 ▸ mem_valuesOf_iff.mpr hpair
      exact ⟨choice.values_usable pair.1 (List.ne_nil_of_mem hvalue),
        choice.values_undashed pair.1 pair.2 hvalue⟩
    obtain ⟨hallBefore, hallAfter⟩ := List.forall_mem_append.mp hall
    have husable : AreUsable none before := fun pair hpair => by
      refine ⟨?_, (hallBefore pair hpair).2⟩
      rcases hbefore pair hpair with h | h <;> rw [h] <;> rfl
    have hvaluesOf : choice.values = (valuesOf · (before ++ after)) :=
      funext fun setting => (hvalues setting).symm
    have honce : ∀ setting, setting ≠ .fact → (valuesOf setting (before ++ after)).length ≤ 1 :=
      fun setting hfact => hvalues setting ▸ choice.values_once setting hfact
    rw [Task.ofArguments_of_isMixed hname hfront hbehind husable hallAfter choice.words_undashed,
      task, hvaluesOf, Options.ofValues?_valuesOf_append hbefore honce]

/-- Every choice can be written. -/
theorem exists_isWritten (choice : Choice) : ∃ arguments, choice.IsWritten arguments := by
  obtain ⟨name, hname⟩ : ∃ name, Command.ofName? name = some choice.command := by
    cases choice.command
    · exact ⟨"nodes", by decide⟩
    · exact ⟨"facts", by decide⟩
    · exact ⟨"render", by decide⟩
  obtain ⟨behind, hbehind⟩ := exists_isMixed
    ([.url, .config, .format, .fact, .context].flatMap fun setting =>
      (choice.values setting).map (setting, ·)) choice.words
  refine ⟨[] ++ name :: behind, .arranged hname .nil hbehind (List.forall_mem_nil _) fun setting => ?_⟩
  simp only [List.nil_append, List.flatMap_cons, List.flatMap_nil, valuesOf_append, valuesOf_map]
  cases setting <;> simp [valuesOf]

/-- A command line is read alike in whatever order its parts stand. A choice of options and words can
be written, and all command lines for it ask for its task. So they lead to the same run in all
surroundings: the requests, what is printed and the code are the same. -/
theorem run_anyOrder (choice : Choice) :
    (∃ arguments, choice.IsWritten arguments) ∧
    ∀ arguments, choice.IsWritten arguments → Task.ofArguments arguments = choice.task ∧
      ∀ others, choice.IsWritten others →
        ∀ surroundings, run surroundings others = run surroundings arguments := by
  refine ⟨choice.exists_isWritten, fun arguments harguments => ?_⟩
  refine ⟨harguments.ofArguments_eq, fun others hothers surroundings => ?_⟩
  rw [run, run, harguments.ofArguments_eq, hothers.ofArguments_eq]

/-- Two facts of some nodes, as they are asked for from a server. -/
def twoFacts : Choice where
  command := .facts
  values
    | .url => ["http://db/"]
    | .config => []
    | .format => ["json"]
    | .fact => ["kernel", "os"]
    | .context => []
  words := ["web", "has:x"]
  values_usable setting := by cases setting <;> simp [Setting.isFor]
  values_once setting := by cases setting <;> simp
  values_undashed setting := by cases setting <;> simp [IsUndashed]
  words_undashed := by simp [IsUndashed]

/-- Whether the options stand between the words and the server in front of the command, or all of
them at the ends in other ways of writing, the run is the same. -/
theorem run_anyOrder_twoFacts :
    Task.ofArguments
        ["--url", "http://db/", "facts", "web", "-nkernel", "--fact=os", "has:x", "-f", "json"] =
      .ok (.facts ⟨some "http://db/", none⟩ ["kernel", "os"] .json ["web", "has:x"]) ∧
    run nowhere ["f", "--format=json", "--fact", "kernel", "web", "has:x", "-n=os", "-uhttp://db/"] =
      run nowhere
        ["--url", "http://db/", "facts", "web", "-nkernel", "--fact=os", "has:x", "-f", "json"] := by
  have hamong : twoFacts.IsWritten
      ["--url", "http://db/", "facts", "web", "-nkernel", "--fact=os", "has:x", "-f", "json"] := by
    have hfront : IsMixed [(.url, "http://db/")] [] ["--url", "http://db/"] := .option .long .nil
    have hkernel : Setting.fact.IsWritten "kernel" ["-nkernel"] :=
      @Setting.IsWritten.shortJoined .fact "kernel" 'n' rfl (by decide) (by decide)
    have hbehind : IsMixed [(.fact, "kernel"), (.fact, "os"), (.format, "json")] ["web", "has:x"]
        ["web", "-nkernel", "--fact=os", "has:x", "-f", "json"] :=
      .word (.option hkernel (.option .longJoined (.word (.option (.short rfl) .nil))))
    exact .arranged (by decide) hfront hbehind (by simp) fun setting => by cases setting <;> rfl
  have hends : twoFacts.IsWritten
      ["f", "--format=json", "--fact", "kernel", "web", "has:x", "-n=os", "-uhttp://db/"] := by
    have hos : Setting.fact.IsWritten "os" ["-n=os"] :=
      @Setting.IsWritten.shortEquals .fact "os" 'n' rfl
    have hserver : Setting.url.IsWritten "http://db/" ["-uhttp://db/"] :=
      @Setting.IsWritten.shortJoined .url "http://db/" 'u' rfl (by decide) (by decide)
    have hbehind : IsMixed
        [(.format, "json"), (.fact, "kernel"), (.fact, "os"), (.url, "http://db/")] ["web", "has:x"]
        ["--format=json", "--fact", "kernel", "web", "has:x", "-n=os", "-uhttp://db/"] :=
      .option .longJoined (.option .long (.word (.word (.option hos (.option hserver .nil)))))
    exact .arranged (by decide) .nil hbehind (by simp) fun setting => by cases setting <;> rfl
  have hrun := twoFacts.run_anyOrder.2 _ hamong
  exact ⟨hrun.1, hrun.2 _ hends nowhere⟩

end Choice

end InventoryQuery.CommandLine
