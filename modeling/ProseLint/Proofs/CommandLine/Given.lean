import ProseLint.CommandLine.Arguments
import ProseLint.Proofs.Text.Pieces

/-!
# Arguments in any order

A check is given paths, options with their values and the switch for more output, one after the
other in any order, and perhaps more paths behind two dashes. What is read last stays pending for a
while, so that the state between two words shows little by itself. It is described by the arguments
that it comes to once all that is pending is taken over (`Progress.ComesTo`). Every argument adds
itself to these, whatever is pending when it is read (`exists_addWords_words`), and so the arguments
of each kind end up in their order, however the kinds are mixed (`parse_check_given`).
-/

namespace ProseLint.CommandLine

/-- An argument that a check is given. -/
inductive Given where
  | path (text : String)
  | option (o : Valued) (value : String)
  /-- The switch for more output, in its short or long form. -/
  | verbose (short : Bool)
deriving Repr, DecidableEq

namespace Given

/-- The words of the argument on the command line. -/
def words : Given → List String
  | path text => [text]
  | option .exclude value => ["--exclude", value]
  | option .options value => ["--options", value]
  | option .ignore value => ["--ignore", value]
  | verbose true => ["-v"]
  | verbose false => ["--verbose"]

/-- The path that is given, if the argument is one. -/
def path? : Given → Option String
  | path text => some text
  | _ => none

/-- The value that an option is given, if the argument is that option. -/
def value? (o : Valued) : Given → Option String
  | option given value => if given = o then some value else none
  | _ => none

/-- Is the argument the switch for more output? -/
def isVerbose : Given → Bool
  | verbose _ => true
  | _ => false

/-- The paths among some arguments. -/
def paths (given : List Given) : List String := given.filterMap path?

/-- The values that an option has among some arguments. -/
def values (o : Valued) (given : List Given) : List String := given.filterMap (value? o)

/-- How often the switch for more output is among some arguments. -/
def verboses (given : List Given) : Nat := given.countP isVerbose

@[simp] theorem paths_append (given more : List Given) :
    paths (given ++ more) = paths given ++ paths more := List.filterMap_append

@[simp] theorem paths_cons (g : Given) (given : List Given) :
    paths (g :: given) = g.path?.toList ++ paths given := by
  cases hpath : g.path? <;> simp [paths, hpath]

@[simp] theorem values_append (o : Valued) (given more : List Given) :
    values o (given ++ more) = values o given ++ values o more := List.filterMap_append

@[simp] theorem values_cons (o : Valued) (g : Given) (given : List Given) :
    values o (g :: given) = (g.value? o).toList ++ values o given := by
  cases hvalue : g.value? o <;> simp [values, hvalue]

@[simp] theorem verboses_append (given more : List Given) :
    verboses (given ++ more) = verboses given + verboses more := List.countP_append

@[simp] theorem verboses_cons (g : Given) (given : List Given) :
    verboses (g :: given) = verboses given + if g.isVerbose then 1 else 0 := List.countP_cons

end Given

/-- The words behind two dashes, if there are two dashes. -/
def dashed : Option (List String) → List String
  | some words => "--" :: words
  | none => []

/-- The word does not start with a dash. -/
def IsPlain (word : String) : Prop := word.toList.head? ≠ some '-'

instance (word : String) : Decidable (IsPlain word) := inferInstanceAs (Decidable (_ ≠ _))

/-- The arguments can stand on one command line: no path or value looks like an option, and what can
be given once is given at most once. -/
structure Given.Proper (given : List Given) : Prop where
  isPlain_path : ∀ path ∈ paths given, IsPlain path
  isPlain_value : ∀ o, ∀ value ∈ values o given, IsPlain value
  options_le : (values .options given).length ≤ 1
  verboses_le : verboses given ≤ 1

/-- Two lists have the same arguments of each kind in the same order. -/
structure Given.Alike (given others : List Given) : Prop where
  paths_eq : paths given = paths others
  values_eq : ∀ o, values o given = values o others
  verboses_eq : verboses given = verboses others

/-! ## Taking over what is pending -/

/-- The arguments with one more value of an option. -/
def Arguments.addValue (a : Arguments) (value : String) : Valued → Arguments
  | .exclude => { a with excludes := a.excludes ++ Text.stringPieces ',' value }
  | .options => { a with options? := some value }
  | .ignore => { a with ignores := a.ignores ++ [value] }

namespace Progress

@[simp] theorem use_arguments (p : Progress) (a : Argument) :
    (p.use a).arguments = p.arguments := by
  unfold use
  split <;> rfl

@[simp] theorem use_pending (p : Progress) (a : Argument) : (p.use a).pending = p.pending := by
  unfold use
  split <;> rfl

@[simp] theorem mem_used_use {p : Progress} {a b : Argument} :
    b ∈ (p.use a).used ↔ b ∈ p.used ∨ b = a := by
  unfold use
  split <;> simp_all

theorem setOption_eq_ok_iff {p q : Progress} {o : Valued} {value : String} :
    p.setOption o value = .ok q ↔ (o = .options → p.arguments.options? = none) ∧
      q = { p with arguments := p.arguments.addValue value o }.use o.argument := by
  cases o with
  | exclude => simp [setOption, Arguments.addValue, Valued.argument, eq_comm]
  | ignore => simp [setOption, Arguments.addValue, Valued.argument, eq_comm]
  | options =>
    cases hoptions : p.arguments.options? <;>
      simp [setOption, Arguments.addValue, Valued.argument, hoptions, eq_comm]

theorem pending_of_settle {p q : Progress} (h : p.settle = .ok q) : q.pending = .nothing := by
  unfold settle at h
  split at h
  · cases h
    rfl
  · cases h
    simp
  · obtain ⟨-, rfl⟩ := setOption_eq_ok_iff.1 h
    simp
  · cases h

theorem settle_eq_self {p : Progress} (h : p.pending = .nothing) : p.settle = .ok p := by
  obtain ⟨arguments, used, pending⟩ := p
  cases h
  rfl

/-- What has been read comes to these arguments once what is pending is taken over, and if excludes
are among them, that is noted. -/
def ComesTo (p : Progress) (a : Arguments) : Prop :=
  ∃ q, p.settle = .ok q ∧ q.arguments = a ∧ (.exclude ∉ q.used → a.excludes = [])

theorem comesTo_nothing : ComesTo {} {} := ⟨_, rfl, rfl, fun _ => rfl⟩

/-! ## One argument -/

theorem ComesTo.addPath {p : Progress} {a : Arguments} (h : p.ComesTo a) (path : String) :
    ∃ q, p.addPath path = .ok q ∧ q.ComesTo { a with paths := a.paths ++ [path] } := by
  obtain ⟨q, hsettle, rfl, hexcludes⟩ := h
  unfold Progress.addPath
  split
  · -- the path carries on a run of paths, which is still pending
    next values hpending =>
    simp only [settle, hpending, Except.ok.injEq] at hsettle
    subst hsettle
    exact ⟨_, rfl, _, rfl, by simp, by simpa using hexcludes⟩
  · -- the path starts a run, and what was pending is taken over first
    rw [hsettle]
    exact ⟨_, rfl, _, rfl, by simp, by simpa using hexcludes⟩

theorem ComesTo.foldlM_addPath {p : Progress} {a : Arguments} (h : p.ComesTo a)
    (words : List String) :
    ∃ q, words.foldlM Progress.addPath p = .ok q ∧
      q.ComesTo { a with paths := a.paths ++ words } := by
  induction words generalizing p a with
  | nil => exact ⟨p, rfl, by simpa using h⟩
  | cons word words ih =>
    obtain ⟨q, hadd, hq⟩ := h.addPath word
    obtain ⟨r, hfold, hr⟩ := ih hq
    refine ⟨r, ?_, by simpa using hr⟩
    rw [List.foldlM_cons, hadd]
    exact hfold

theorem ComesTo.addWord {p : Progress} {a : Arguments} (h : p.ComesTo a) (word : String) :
    ∃ q, p.addWord word = .ok q ∧ q.ComesTo { a with paths := a.paths ++ [word] } := by
  unfold Progress.addWord
  split
  · -- an option that waits for its value cannot be taken over
    next o hpending =>
    obtain ⟨q, hsettle, -⟩ := h
    simp [settle, hpending] at hsettle
  · exact h.addPath word

/-- The value of an option is added; it stays pending until the next argument. -/
theorem ComesTo.addOption {p : Progress} {a : Arguments} (h : p.ComesTo a) {o : Valued}
    (honce : o = .options → a.options? = none) (value : String) :
    ∃ q r, p.addOption o none = .ok q ∧ q.addWord value = .ok r ∧
      r.ComesTo (a.addValue value o) := by
  obtain ⟨q, hsettle, rfl, hexcludes⟩ := h
  refine ⟨{ q with pending := .option o none }, { q with pending := .option o (some value) },
    ?_, rfl, ?_⟩
  · rw [Progress.addOption, hsettle]
    rfl
  · refine ⟨_, setOption_eq_ok_iff.2 ⟨honce, rfl⟩, by simp, ?_⟩
    cases o with
    | exclude => simp [Valued.argument]
    | options => simpa [Arguments.addValue, Valued.argument] using hexcludes
    | ignore => simpa [Arguments.addValue, Valued.argument] using hexcludes

theorem ComesTo.setVerbose {p : Progress} {a : Arguments} (h : p.ComesTo a)
    (honce : a.verbose = false) :
    ∃ q, p.setVerbose = .ok q ∧ q.ComesTo { a with verbose := true } := by
  obtain ⟨q, hsettle, rfl, hexcludes⟩ := h
  refine ⟨{ q with arguments := { q.arguments with verbose := true } }.use .verbose, ?_,
    _, settle_eq_self (by simp [pending_of_settle hsettle]), by simp, by simpa using hexcludes⟩
  rw [Progress.setVerbose, hsettle]
  exact if_neg (by simp [honce])

end Progress

/-! ## The words of an argument -/

theorem Word.ofString_of_isPlain {word : String} (h : IsPlain word) :
    Word.ofString word = .plain := by
  unfold Word.ofString
  split <;> simp_all [IsPlain]

namespace Progress

theorem addWords_cons_plain {p q : Progress} {word : String} (h : IsPlain word)
    (hadd : p.addWord word = .ok q) (rest : List String) :
    p.addWords (word :: rest) = q.addWords rest := by
  rw [addWords, Word.ofString_of_isPlain h]
  simp only [hadd]
  rfl

theorem addWords_cons_long {p q : Progress} {word : String} (name : String)
    (h : Word.ofString word = .long name none) (hadd : p.addLong name none = .ok q)
    (rest : List String) : p.addWords (word :: rest) = q.addWords rest := by
  rw [addWords, h]
  simp only [hadd]
  rfl

theorem addWords_option {p q r : Progress} {o : Valued} {value : String}
    (hoption : p.addOption o none = .ok q) (hplain : IsPlain value)
    (hvalue : q.addWord value = .ok r) (rest : List String) :
    p.addWords ((Given.option o value).words ++ rest) = r.addWords rest := by
  have hrest := addWords_cons_plain hplain hvalue rest
  cases o with
  | exclude => exact (addWords_cons_long "exclude" (by decide) hoption _).trans hrest
  | options => exact (addWords_cons_long "options" (by decide) hoption _).trans hrest
  | ignore => exact (addWords_cons_long "ignore" (by decide) hoption _).trans hrest

theorem addWords_verbose {p q : Progress} (h : p.setVerbose = .ok q) (short : Bool)
    (rest : List String) : p.addWords ((Given.verbose short).words ++ rest) = q.addWords rest := by
  cases short with
  | false => exact addWords_cons_long "verbose" (by decide) h rest
  | true =>
    rw [Given.words, List.singleton_append, addWords,
      show Word.ofString "-v" = .shorts ['v'] by decide]
    simp only [addShorts, h]
    rfl

end Progress

/-! ## A whole command line -/

namespace Arguments

/-- The arguments that are given, kind by kind. -/
def ofGiven (given : List Given) : Arguments where
  paths := Given.paths given
  excludes := (Given.values .exclude given).flatMap (Text.stringPieces ',')
  options? := (Given.values .options given).head?
  ignores := Given.values .ignore given
  verbose := 0 < Given.verboses given

/-- The arguments with one more. -/
def add (a : Arguments) : Given → Arguments
  | .path text => { a with paths := a.paths ++ [text] }
  | .option o value => a.addValue value o
  | .verbose _ => { a with verbose := true }

/-- One more argument can be given: it does not look like something else, and it is not there yet if
it can be there only once. -/
def Admits (a : Arguments) : Given → Prop
  | .path text => IsPlain text
  | .option o value => IsPlain value ∧ (o = .options → a.options? = none)
  | .verbose _ => a.verbose = false

theorem admits_of_proper {before after : List Given} {g : Given}
    (h : Given.Proper (before ++ g :: after)) : (ofGiven before).Admits g := by
  cases g with
  | path text => exact h.isPlain_path text (by simp [Given.path?])
  | option o value =>
    refine ⟨h.isPlain_value o value (by simp [Given.value?]), ?_⟩
    rintro rfl
    have honce := h.options_le
    simp only [Given.values_append, Given.values_cons, Given.value?, ↓reduceIte,
      Option.toList_some, List.length_append, List.length_singleton] at honce
    rw [ofGiven, List.head?_eq_none_iff, ← List.length_eq_zero_iff]
    omega
  | verbose short =>
    have honce := h.verboses_le
    simp only [Given.verboses_append, Given.verboses_cons, Given.isVerbose, ↓reduceIte] at honce
    simp only [Admits, ofGiven, decide_eq_false_iff_not]
    omega

theorem ofGiven_concat {given : List Given} {g : Given} (h : (ofGiven given).Admits g) :
    ofGiven (given ++ [g]) = (ofGiven given).add g := by
  have hnil : Given.paths [] = [] ∧ (∀ o, Given.values o [] = []) ∧ Given.verboses [] = 0 :=
    ⟨rfl, fun _ => rfl, rfl⟩
  cases g with
  | path text => simp [ofGiven, add, Given.path?, Given.value?, Given.isVerbose, hnil]
  | verbose short => simp [ofGiven, add, Given.path?, Given.value?, Given.isVerbose, hnil]
  | option o value =>
    cases o with
    | exclude => simp [ofGiven, add, addValue, Given.path?, Given.value?, Given.isVerbose, hnil]
    | ignore => simp [ofGiven, add, addValue, Given.path?, Given.value?, Given.isVerbose, hnil]
    | options =>
      have hfirst : Given.values .options given = [] := List.head?_eq_none_iff.1 (h.2 rfl)
      simp [ofGiven, add, addValue, Given.path?, Given.value?, Given.isVerbose, hnil, hfirst]

end Arguments

namespace Progress

/-- The words of an argument that can be given add the argument. -/
theorem ComesTo.exists_addWords_words {p : Progress} {a : Arguments} (h : p.ComesTo a) {g : Given}
    (hadmits : a.Admits g) (rest : List String) :
    ∃ q : Progress, p.addWords (g.words ++ rest) = q.addWords rest ∧ q.ComesTo (a.add g) := by
  cases g with
  | path text =>
    obtain ⟨q, hadd, hq⟩ := h.addWord text
    exact ⟨q, addWords_cons_plain hadmits hadd rest, hq⟩
  | option o value =>
    obtain ⟨q, r, hoption, hvalue, hr⟩ := h.addOption hadmits.2 value
    exact ⟨r, addWords_option hoption hadmits.1 hvalue rest, hr⟩
  | verbose short =>
    obtain ⟨q, hset, hq⟩ := h.setVerbose hadmits
    exact ⟨q, addWords_verbose hset short rest, hq⟩

theorem ComesTo.exists_addWords_flatMap {p : Progress} {before after : List Given}
    (h : p.ComesTo (.ofGiven before)) (hproper : Given.Proper (before ++ after))
    (rest : List String) :
    ∃ q : Progress, p.addWords (after.flatMap Given.words ++ rest) = q.addWords rest ∧
      q.ComesTo (.ofGiven (before ++ after)) := by
  -- the arguments that are read move from `after` to `before`, and `p` always comes to `before`
  induction after generalizing p before with
  | nil => exact ⟨p, rfl, by simpa using h⟩
  | cons g after ih =>
    have hadmits := Arguments.admits_of_proper hproper
    obtain ⟨q, hwords, hq⟩ := h.exists_addWords_words hadmits (after.flatMap Given.words ++ rest)
    rw [← Arguments.ofGiven_concat hadmits] at hq
    obtain ⟨r, hrest, hr⟩ := ih hq (by simpa using hproper)
    refine ⟨r, ?_, by simpa using hr⟩
    rw [List.flatMap_cons, List.append_assoc, hwords, hrest]

theorem ComesTo.exists_addWords_dashed {p : Progress} {a : Arguments} (h : p.ComesTo a)
    (behind? : Option (List String)) :
    ∃ q, p.addWords (dashed behind?) = .ok q ∧
      q.arguments = { a with paths := a.paths ++ behind?.getD [] } ∧
      (.exclude ∉ q.used → a.excludes = []) := by
  cases behind? with
  | none =>
    obtain ⟨q, hsettle, rfl, hexcludes⟩ := h
    exact ⟨q, hsettle, by simp, hexcludes⟩
  | some words =>
    obtain ⟨q, hfold, r, hsettle, hr, hexcludes⟩ := h.foldlM_addPath words
    refine ⟨r, ?_, hr, hexcludes⟩
    rw [dashed, addWords, show Word.ofString "--" = .dashes by decide]
    simp only [hfold]
    exact hsettle

theorem complete_of_excludes?_none {env : Environment} (henv : env.excludes? = none)
    {p : Progress} (h : .exclude ∉ p.used → p.arguments.excludes = []) :
    p.complete env = { p.arguments with
      paths := if p.arguments.paths = [] then ["."] else p.arguments.paths } := by
  -- without excludes among the arguments, those of the environment are none as well
  by_cases hused : .exclude ∈ p.used
  · simp [complete, hused]
  · simp [complete, hused, henv, h hused]

end Progress

/-- The words that give some arguments to a check, and more paths behind two dashes. -/
def commandLine (given : List Given) (behind? : Option (List String)) : List String :=
  "check" :: (given.flatMap Given.words ++ dashed behind?)

theorem parse_commandLine {env : Environment} (henv : env.excludes? = none) {given : List Given}
    (hproper : Given.Proper given) (behind? : Option (List String)) :
    let paths := Given.paths given ++ behind?.getD []
    parse env (commandLine given behind?) =
      .ok (some { Arguments.ofGiven given with paths := if paths = [] then ["."] else paths }) := by
  intro paths
  have hstart : Progress.ComesTo {} (.ofGiven []) := Progress.comesTo_nothing
  obtain ⟨p, hgiven, hp⟩ := hstart.exists_addWords_flatMap hproper (dashed behind?)
  obtain ⟨q, hdashed, harguments, hexcludes⟩ := hp.exists_addWords_dashed behind?
  have hcomplete := Progress.complete_of_excludes?_none henv (p := q) (by rwa [harguments])
  rw [harguments] at hcomplete
  rw [commandLine, parse, parseCheck, hgiven, hdashed, Except.map, hcomplete]
  rfl

theorem Given.Alike.proper {given others : List Given} (h : Alike others given)
    (hproper : Proper given) : Proper others where
  isPlain_path := h.paths_eq ▸ hproper.isPlain_path
  isPlain_value o := h.values_eq o ▸ hproper.isPlain_value o
  options_le := h.values_eq .options ▸ hproper.options_le
  verboses_le := h.verboses_eq ▸ hproper.verboses_le

theorem Given.Alike.ofGiven_eq {given others : List Given} (h : Alike others given) :
    Arguments.ofGiven others = Arguments.ofGiven given := by
  simp only [Arguments.ofGiven, h.paths_eq, h.values_eq, h.verboses_eq]

/-- A command line that gives a check its arguments in any order is read as these arguments, kind by
kind: the paths are followed by the words behind two dashes, and are the working directory if there
are none; the values of excludes, and only those, are split at each comma. All this depends on the
arguments of each kind and not on how the kinds are mixed. -/
theorem parse_check_given (env : Environment) (henv : env.excludes? = none) {given : List Given}
    (hproper : Given.Proper given) (behind? : Option (List String)) :
    let paths := Given.paths given ++ behind?.getD []
    parse env (commandLine given behind?) = .ok (some
      { paths := if paths = [] then ["."] else paths
        excludes := (Given.values .exclude given).flatMap fun value =>
          (value.toList.splitOn ',').map String.ofList
        options? := (Given.values .options given).head?
        ignores := Given.values .ignore given
        verbose := 0 < Given.verboses given }) ∧
    ∀ others, Given.Alike others given →
      parse env (commandLine others behind?) = parse env (commandLine given behind?) := by
  intro paths
  have hparse := parse_commandLine henv hproper behind?
  constructor
  · rw [hparse, Arguments.ofGiven]
    simp only [← Text.pieces_eq_splitOn]
    rfl
  · intro others halike
    rw [parse_commandLine henv (halike.proper hproper), hparse, halike.paths_eq, halike.ofGiven_eq]

/-- All kinds of arguments, the paths and excludes in several parts. -/
def mixedArguments : List Given :=
  [.option .exclude "t,, u", .path "src", .verbose true, .option .ignore "a,b", .path "lib",
   .option .options "\x7b\x7d", .option .exclude "logger"]

/-- The same arguments, one kind after the other. -/
def groupedArguments : List Given :=
  [.path "src", .path "lib", .option .exclude "t,, u", .option .exclude "logger",
   .option .options "\x7b\x7d", .option .ignore "a,b", .verbose false]

theorem parse_check_given_mixedArguments :
    Given.Proper mixedArguments ∧ Given.Alike groupedArguments mixedArguments ∧
    commandLine mixedArguments (some ["-v"]) =
      ["check", "--exclude", "t,, u", "src", "-v", "--ignore", "a,b", "lib",
       "--options", "\x7b\x7d", "--exclude", "logger", "--", "-v"] ∧
    parse {} (commandLine mixedArguments (some ["-v"])) = .ok (some
      { paths := ["src", "lib", "-v"], excludes := ["t", "", " u", "logger"]
        options? := some "\x7b\x7d", ignores := ["a,b"], verbose := true }) ∧
    parse {} (commandLine groupedArguments (some ["-v"])) =
      parse {} (commandLine mixedArguments (some ["-v"])) := by
  have hproper : Given.Proper mixedArguments :=
    { isPlain_path := by decide
      isPlain_value := by
        intro o
        cases o <;> decide
      options_le := by decide
      verboses_le := by decide }
  have halike : Given.Alike groupedArguments mixedArguments :=
    { paths_eq := by decide
      values_eq := by
        intro o
        cases o <;> decide
      verboses_eq := by decide }
  have hgiven := parse_check_given {} rfl hproper (some ["-v"])
  exact ⟨hproper, halike, by decide, hgiven.1, hgiven.2 _ halike⟩

end ProseLint.CommandLine
