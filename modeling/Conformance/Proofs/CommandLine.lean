import Conformance.CommandLine.Reader
import Conformance.Proofs.Json.Number
import Conformance.Proofs.Work

/-! # Written command lines

A command is written as its name and its options, each with its value in the same word. The options
may stand in any order, as long as the values of an option that can be repeated keep theirs. Such a
command line is read as the command that it was written for: no value is taken for an option.
-/

namespace Conformance.CommandLine

/-- An option as one word gives it. -/
inductive Setting where
  | verbose
  | perDirectory
  | valued (o : Opt) (value : String)
deriving DecidableEq

namespace Setting

def word : Setting → String
  | .verbose => "-v"
  | .perDirectory => "--per-directory"
  | .valued o value => "--" ++ o.name ++ "=" ++ value

def opt : Setting → Opt
  | .verbose => .verbose
  | .perDirectory => .perDirectory
  | .valued o _ => o

def valueOf? (o : Opt) : Setting → Option String
  | .valued p value => if p = o then some value else none
  | .verbose | .perDirectory => none

end Setting

def valuesOf (o : Opt) (settings : List Setting) : List String :=
  settings.filterMap (Setting.valueOf? o)

theorem valuesOf_append (o : Opt) (front back : List Setting) :
    valuesOf o (front ++ back) = valuesOf o front ++ valuesOf o back := List.filterMap_append

theorem valuesOf_verbose (o : Opt) : valuesOf o [.verbose] = [] := rfl

theorem valuesOf_perDirectory (o : Opt) : valuesOf o [.perDirectory] = [] := rfl

theorem valuesOf_map_valued (o p : Opt) (values : List String) :
    valuesOf o (values.map (.valued p)) = if p = o then values else [] := by
  by_cases same : p = o
  · simp [valuesOf, List.filterMap_map, Function.comp_def, Setting.valueOf?, same]
  · simp [valuesOf, List.filterMap_map, Function.comp_def, Setting.valueOf?, same]

theorem valuesOf_valued (o p : Opt) (value : String) :
    valuesOf o [.valued p value] = if p = o then [value] else [] :=
  valuesOf_map_valued o p [value]

/-! ## What options ask for -/

def formatName : ReportFormat → String
  | .text => "text"
  | .json => "json"

def Opt.IsRepeatable (o : Opt) : Prop := o = .arg ∨ o = .suite

/-- The values of an option as they are written: a path is not empty, and a number has its decimal
digits. -/
def Opt.Fits : Opt → String → Prop
  | .config, value | .root, value => value ≠ ""
  | .interpreter, _ | .arg, _ | .language, _ | .suite, _ => True
  | .jobs, value | .timeout, value => ∃ n ≤ maxNumber, value = toString n
  | .format, value => ∃ format, value = formatName format
  | .verbose, _ | .help, _ | .version, _ | .perDirectory, _ => False

namespace Given

def values (g : Given) : Opt → List String
  | .config => g.source.config.toList
  | .interpreter => g.source.interpreter.toList
  | .arg => g.source.args
  | .language => g.source.language.toList
  | .root => g.source.root.toList
  | .suite => g.source.suites
  | .jobs => g.jobs.toList.map toString
  | .timeout => g.timeout.toList.map toString
  | .format => g.format.toList.map formatName
  | .verbose | .help | .version | .perDirectory => []

def apply (g : Given) : Setting → Except UsageError Given
  | .verbose => g.raise .verbose
  | .perDirectory => g.raise .perDirectory
  | .valued o value => g.accept o value

/-- One option gains a value, and all else stays as it is. -/
structure Gains (g g' : Given) (o : Opt) (value : String) : Prop where
  verbose : g'.verbose = g.verbose
  fixture : g'.fixture = g.fixture
  perDirectory : g'.source.perDirectory = g.source.perDirectory
  values : ∀ p, g'.values p = g.values p ++ if o = p then [value] else []

/-- What was read asks for the settings and nothing else. -/
structure Holds (g : Given) (settings : List Setting) : Prop where
  values : ∀ o, g.values o = valuesOf o settings
  perDirectory : g.source.perDirectory = true ↔ .perDirectory ∈ settings
  verbose : g.verbose.getD 0 = min 255 (settings.count .verbose)
  fixture : g.fixture = none

end Given

structure AreReadable (settings : List Setting) : Prop where
  fits : ∀ o value, .valued o value ∈ settings → o.Fits value
  single : ∀ o, o.IsRepeatable ∨ (valuesOf o settings).length ≤ 1
  perDirectory : settings.count .perDirectory ≤ 1

theorem AreReadable.of_append {front back : List Setting} (h : AreReadable (front ++ back)) :
    AreReadable front where
  fits o value among := h.fits o value (List.mem_append_left back among)
  single o := by
    refine (h.single o).imp_right fun few => ?_
    rw [valuesOf, List.filterMap_append, List.length_append] at few
    exact Nat.le_of_add_right_le few
  perDirectory := by
    have few := h.perDirectory
    rw [List.count_append] at few
    exact Nat.le_of_add_right_le few

theorem toList_toString (n : Nat) : (toString n).toList = Nat.toDigits 10 n := by
  rw [Nat.toString_eq_repr, Nat.toList_repr]

theorem toString_injective : Function.Injective (toString : Nat → String) := by
  intro m n same
  rw [← Json.digitsValue_toDigits m, ← toList_toString, same, toList_toString,
    Json.digitsValue_toDigits]

theorem number?_toString {n : Nat} (small : n ≤ maxNumber) : number? (toString n) = some n := by
  have digits := toList_toString n
  obtain ⟨c, rest, cons, digit⟩ := (Json.whole_toDigits n).digits.exists_cons
  have all : (c :: rest).all Char.isDigit = true :=
    List.all_eq_true.mpr (cons ▸ (Json.whole_toDigits n).digits.2)
  have value : (c :: rest).foldl (fun n c => n * 10 + (c.toNat - 48)) 0 = n :=
    cons ▸ Json.digitsValue_toDigits n
  have unsigned : c ≠ '+' := by
    rintro rfl
    cases digit
  simp [number?, cons, unsigned, all, value, small]

theorem format?_formatName (format : ReportFormat) : format? (formatName format) = some format := by
  cases format <;> rfl

theorem formatName_injective : Function.Injective formatName := by
  intro format format' same
  rw [← Option.some_inj, ← format?_formatName, same, format?_formatName]

namespace Given

variable {g : Given} {o : Opt} {value : String}

/-- A value that fits is taken over by an option that may have one more. -/
theorem accept_of_fits (fits : o.Fits value) (free : o.IsRepeatable ∨ g.values o = []) :
    ∃ g', g.accept o value = .ok g' ∧ g.Gains g' o value := by
  cases o with
  | config | root =>
    have unset := free.resolve_left (by simp [Opt.IsRepeatable])
    simp only [values, Option.toList_eq_nil_iff] at unset
    refine ⟨_, (by rw [accept, unset, path?, if_neg fits]; rfl), ?_⟩
    exact ⟨rfl, rfl, rfl, fun p => by cases p <;> simp [values, unset]⟩
  | interpreter | language =>
    have unset := free.resolve_left (by simp [Opt.IsRepeatable])
    simp only [values, Option.toList_eq_nil_iff] at unset
    refine ⟨_, (by rw [accept, unset]; rfl), ?_⟩
    exact ⟨rfl, rfl, rfl, fun p => by cases p <;> simp [values, unset]⟩
  | arg | suite => exact ⟨_, rfl, rfl, rfl, rfl, fun p => by cases p <;> simp [values]⟩
  | jobs | timeout =>
    have unset := free.resolve_left (by simp [Opt.IsRepeatable])
    simp only [values, List.map_eq_nil_iff, Option.toList_eq_nil_iff] at unset
    obtain ⟨n, small, rfl⟩ := fits
    refine ⟨_, (by rw [accept, unset, number?_toString small]; rfl), ?_⟩
    exact ⟨rfl, rfl, rfl, fun p => by cases p <;> simp [values, unset]⟩
  | format =>
    have unset := free.resolve_left (by simp [Opt.IsRepeatable])
    simp only [values, List.map_eq_nil_iff, Option.toList_eq_nil_iff] at unset
    obtain ⟨format, rfl⟩ := fits
    refine ⟨_, (by rw [accept, unset, format?_formatName]; rfl), ?_⟩
    exact ⟨rfl, rfl, rfl, fun p => by cases p <;> simp [values, unset]⟩
  | verbose | help | version | perDirectory => cases fits

theorem Holds.apply {front : List Setting} {x : Setting} (h : g.Holds front)
    (readable : AreReadable (front ++ [x])) :
    ∃ g', g.apply x = .ok g' ∧ g'.Holds (front ++ [x]) := by
  cases x with
  | verbose =>
    refine ⟨_, rfl, ?_, ?_, ?_, h.fixture⟩
    · intro o
      rw [valuesOf_append, valuesOf_verbose, List.append_nil, ← h.values o]
      cases o <;> rfl
    · simp [h.perDirectory]
    · have counted := h.verbose
      simp only [Option.getD_some, List.count_append, List.count_singleton_self]
      omega
  | perDirectory =>
    have first : g.source.perDirectory = false := by
      have once := readable.perDirectory
      rw [List.count_append, List.count_singleton_self] at once
      have absent : .perDirectory ∉ front := List.count_eq_zero.mp (by omega)
      rwa [← h.perDirectory, Bool.not_eq_true] at absent
    have read : g.apply .perDirectory =
        .ok { g with source := { g.source with perDirectory := true } } := by
      rw [Given.apply, raise, first]
      rfl
    refine ⟨_, read, ?_, by simp, by simpa using h.verbose, h.fixture⟩
    intro o
    rw [valuesOf_append, valuesOf_perDirectory, List.append_nil, ← h.values o]
    cases o <;> rfl
  | valued o value =>
    have fits := readable.fits o value (by simp)
    have free : o.IsRepeatable ∨ g.values o = [] := by
      refine (readable.single o).imp_right fun few => ?_
      rw [valuesOf_append, valuesOf_valued, if_pos rfl, List.length_append] at few
      rw [h.values o, ← List.length_eq_zero_iff]
      exact Nat.le_zero.mp (Nat.le_of_add_le_add_right few)
    obtain ⟨g', read, gains⟩ := accept_of_fits fits free
    refine ⟨g', read, ?_, ?_, ?_, gains.fixture.trans h.fixture⟩
    · intro p
      rw [gains.values p, valuesOf_append, valuesOf_valued, h.values p]
    · simp [gains.perDirectory, h.perDirectory]
    · simpa [gains.verbose] using h.verbose

theorem Holds.foldlM {front back : List Setting} (h : g.Holds front)
    (readable : AreReadable (front ++ back)) :
    ∃ g', back.foldlM Given.apply g = .ok g' ∧ g'.Holds (front ++ back) := by
  induction back generalizing g front with
  | nil => exact ⟨g, rfl, by rwa [List.append_nil]⟩
  | cons x back ih =>
    rw [List.append_cons] at readable ⊢
    obtain ⟨g', read, holds⟩ := h.apply readable.of_append
    obtain ⟨last, rest, holds⟩ := ih holds readable
    refine ⟨last, ?_, holds⟩
    rw [List.foldlM_cons, read]
    exact rest

theorem holds_nothing : Given.Holds {} [] where
  values o := by cases o <;> rfl
  perDirectory := by simp
  verbose := rfl
  fixture := rfl

end Given

/-! ## Reading words -/

theorem Level.named?_name {level : Level} {o : Opt} (known : o ∈ level.options) :
    level.named? o.name = some o := by
  revert known
  cases level <;> cases o <;> decide

theorem Opt.equals_not_mem_name (o : Opt) : '=' ∉ o.name.toList := by
  cases o <;> decide

theorem Opt.Fits.takesValue {o : Opt} {value : String} (h : o.Fits value) :
    o.takesValue = true := by
  cases o <;> first | rfl | cases h

namespace State

open Conformance.Text

variable {level : Level} {g : Given} {o : Opt}

theorem word_dashes {word : String} {text : List Char} (dashes : word.toList = '-' :: '-' :: text)
    (more : text ≠ []) :
    ({ given := g } : State).word level word = ({ given := g } : State).longOption level text := by
  obtain ⟨c, text, rfl⟩ := List.exists_cons_of_ne_nil more
  simp [State.word, dashes]

theorem longOption_valued (known : o ∈ level.options) (valued : o.takesValue = true) (s : State)
    (value : List Char) :
    s.longOption level (o.name.toList ++ '=' :: value) = s.attach o (String.ofList value) := by
  have front := takeWhile_ne_append o.equals_not_mem_name value
  have back := dropWhile_ne_append o.equals_not_mem_name value
  rw [longOption, front, back, String.ofList_toList, Level.named?_name known]
  simp [valued]

theorem longOption_flag (known : o ∈ level.options) (flag : o.takesValue = false) (s : State) :
    s.longOption level o.name.toList = s.raise o := by
  have others := forall_ne_of_not_mem o.equals_not_mem_name
  have front : o.name.toList.takeWhile (· ≠ '=') = o.name.toList :=
    List.takeWhile_eq_self_iff.mpr others
  have back : o.name.toList.dropWhile (· ≠ '=') = [] := List.dropWhile_eq_nil_iff.mpr others
  rw [longOption, front, back, String.ofList_toList, Level.named?_name known]
  simp [flag]

theorem attach_given (o : Opt) (value : String) :
    ({ given := g } : State).attach o value =
      (g.accept o value).map fun g => { given := g } := by
  cases accepted : g.accept o value <;>
    simp [attach, settle, accepted, Bind.bind, Except.bind, Except.map, Pure.pure, Except.pure]

theorem raise_given (o : Opt) :
    ({ given := g } : State).raise o = (g.raise o).map fun g => { given := g } := by
  cases raised : g.raise o <;>
    simp [raise, settle, raised, Bind.bind, Except.bind, Except.map, Pure.pure, Except.pure]

theorem word_setting {x : Setting} (known : x.opt ∈ level.options)
    (fits : ∀ o value, x = .valued o value → o.Fits value) :
    ({ given := g } : State).word level x.word = (g.apply x).map fun g => { given := g } := by
  cases x with
  | verbose =>
    have lettered : level.lettered? 'v' = some .verbose := by cases level <;> rfl
    have dash : ({ given := g } : State).word level "-v" = letters level { given := g } ['v'] := rfl
    have raised : letters level { given := g } ['v'] = ({ given := g } : State).raise .verbose := by
      rw [letters, lettered]
      change ({ given := g } : State).raise .verbose >>= Except.ok = _
      cases ({ given := g } : State).raise .verbose <;> rfl
    rw [Setting.word, dash, raised, raise_given, Given.apply]
  | perDirectory =>
    have dashes : (Setting.word .perDirectory).toList =
        '-' :: '-' :: (Opt.name .perDirectory).toList := rfl
    rw [word_dashes dashes (by decide), longOption_flag (o := .perDirectory) known rfl,
      raise_given, Given.apply]
  | valued o value =>
    have dashes : (Setting.word (.valued o value)).toList =
        '-' :: '-' :: (o.name.toList ++ '=' :: value.toList) := by simp [Setting.word]
    rw [word_dashes dashes (by simp), longOption_valued (o := o) known (fits o value rfl).takesValue,
      String.ofList_toList, attach_given, Given.apply]

theorem words_settings {settings : List Setting} (known : ∀ x ∈ settings, x.opt ∈ level.options)
    (fits : ∀ o value, .valued o value ∈ settings → o.Fits value) (rest : List String) :
    ({ given := g } : State).words level (settings.map Setting.word ++ rest) =
      settings.foldlM Given.apply g >>= fun g => ({ given := g } : State).words level rest := by
  induction settings generalizing g with
  | nil => rfl
  | cons x settings ih =>
    have ⟨first, others⟩ := List.forall_mem_cons.mp known
    have read := word_setting (g := g) first fun o value same =>
      fits o value (same ▸ List.mem_cons_self)
    rw [List.map_cons, List.cons_append, words, read, List.foldlM_cons]
    cases g.apply x with
    | error e => rfl
    | ok g => exact ih others fun o value among => fits o value (List.mem_cons_of_mem x among)

end State

/-! ## Settings in any order -/

namespace Given

def valuedOptions : List Opt :=
  [.config, .interpreter, .arg, .language, .root, .suite, .jobs, .timeout, .format]

def valuedSettings (g : Given) : List Setting :=
  valuedOptions.flatMap fun o => (g.values o).map (.valued o)

def settings (g : Given) (raised : Nat) : List Setting :=
  g.valuedSettings ++ List.replicate g.source.perDirectory.toNat .perDirectory ++
    List.replicate raised .verbose

/-- The settings in any order, though values of the options that may be given more than once keep
theirs. -/
structure IsArranged (g : Given) (raised : Nat) (arranged : List Setting) : Prop where
  perm : arranged.Perm (g.settings raised)
  args : valuesOf .arg arranged = g.source.args
  suites : valuesOf .suite arranged = g.source.suites

variable {g : Given} {raised : Nat}

theorem valuesOf_settings (o : Opt) : valuesOf o (g.settings raised) = g.values o := by
  have flags (x : Setting) (flag : x.valueOf? o = none) (n : Nat) :
      valuesOf o (List.replicate n x) = [] := by
    rw [valuesOf, List.filterMap_eq_nil_iff]
    intro y among
    rwa [List.eq_of_mem_replicate among]
  rw [settings, valuesOf_append, valuesOf_append, flags .verbose rfl, flags .perDirectory rfl,
    List.append_nil, List.append_nil]
  simp only [valuedSettings, valuedOptions, List.flatMap_cons, List.flatMap_nil, valuesOf_append,
    valuesOf_map_valued]
  cases o <;> simp [values] <;> rfl

theorem length_values (g : Given) (o : Opt) : o.IsRepeatable ∨ (g.values o).length ≤ 1 := by
  have optional {α : Type} (a : Option α) : a.toList.length ≤ 1 := by cases a <;> simp
  cases o <;> simp [Opt.IsRepeatable, values, optional]

variable {arranged : List Setting}

/-- The values of an option that is not repeated can only stand in one order. -/
theorem IsArranged.values (h : g.IsArranged raised arranged) (o : Opt) :
    valuesOf o arranged = g.values o := by
  rcases g.length_values o with (rfl | rfl) | few
  · exact h.args
  · exact h.suites
  · have perm : (valuesOf o arranged).Perm (valuesOf o (g.settings raised)) := h.perm.filterMap _
    rw [valuesOf_settings] at perm
    generalize g.values o = values at perm few
    rcases values with _ | ⟨value, _ | _⟩
    · exact perm.eq_nil
    · exact List.perm_singleton.mp perm
    · simp at few

theorem IsArranged.count_eq (h : g.IsArranged raised arranged) {x : Setting}
    (flag : ∀ o value, x ≠ .valued o value) :
    arranged.count x = (List.replicate g.source.perDirectory.toNat .perDirectory).count x +
      (List.replicate raised .verbose).count x := by
  have others : x ∉ g.valuedSettings := by
    intro among
    obtain ⟨o, -, among⟩ := List.mem_flatMap.mp among
    obtain ⟨value, -, same⟩ := List.mem_map.mp among
    exact flag o value same.symm
  rw [h.perm.count_eq, settings, List.count_append, List.count_append,
    List.count_eq_zero.mpr others, Nat.zero_add]

theorem IsArranged.count_verbose (h : g.IsArranged raised arranged) :
    arranged.count .verbose = raised := by
  rw [h.count_eq (by simp)]
  simp [List.count_replicate]

theorem IsArranged.count_perDirectory (h : g.IsArranged raised arranged) :
    arranged.count .perDirectory = g.source.perDirectory.toNat := by
  rw [h.count_eq (by simp)]
  simp [List.count_replicate]

theorem IsArranged.mem_values (h : g.IsArranged raised arranged) {o : Opt} {value : String}
    (among : .valued o value ∈ arranged) : value ∈ g.values o := by
  rw [← h.values o, valuesOf, List.mem_filterMap]
  exact ⟨_, among, if_pos rfl⟩

theorem IsArranged.areReadable (h : g.IsArranged raised arranged)
    (fits : ∀ o, ∀ value ∈ g.values o, o.Fits value) : AreReadable arranged where
  fits o value among := fits o value (h.mem_values among)
  single o := h.values o ▸ g.length_values o
  perDirectory := by
    rw [h.count_perDirectory]
    exact Bool.toNat_le _

theorem fits (config : g.source.config ≠ some "") (root : g.source.root ≠ some "")
    (jobs : ∀ n ∈ g.jobs, n ≤ maxNumber) (timeout : ∀ n ∈ g.timeout, n ≤ maxNumber) {o : Opt}
    {value : String} (among : value ∈ g.values o) : o.Fits value := by
  have path {p : Option String} (nonempty : p ≠ some "") (among : value ∈ p.toList) :
      value ≠ "" := by
    rintro rfl
    exact nonempty (Option.mem_toList.mp among)
  have number {number : Option Nat} (small : ∀ n ∈ number, n ≤ maxNumber)
      (among : value ∈ number.toList.map toString) : ∃ n ≤ maxNumber, value = toString n := by
    obtain ⟨n, given, rfl⟩ := List.mem_map.mp among
    exact ⟨n, small n (Option.mem_toList.mp given), rfl⟩
  cases o with
  | config => exact path config among
  | root => exact path root among
  | jobs => exact number jobs among
  | timeout => exact number timeout among
  | format =>
    obtain ⟨format, -, rfl⟩ := List.mem_map.mp among
    exact ⟨format, rfl⟩
  | interpreter | arg | language | suite => trivial
  | verbose | help | version | perDirectory => cases among

theorem eq_of_values {g g' : Given} (same : ∀ o, g'.values o = g.values o)
    (dirs : g'.source.perDirectory = g.source.perDirectory) (fixture : g'.fixture = g.fixture) :
    g' = { g with verbose := g'.verbose } := by
  have first (o : Opt) : (g'.values o).head? = (g.values o).head? := congrArg List.head? (same o)
  have source : g'.source = g.source := by
    have config : g'.source.config = g.source.config := by simpa [values] using first .config
    have interpreter : g'.source.interpreter = g.source.interpreter := by
      simpa [values] using first .interpreter
    have args : g'.source.args = g.source.args := same .arg
    have language : g'.source.language = g.source.language := by
      simpa [values] using first .language
    have root : g'.source.root = g.source.root := by simpa [values] using first .root
    have suites : g'.source.suites = g.source.suites := same .suite
    cases source : g'.source
    cases source' : g.source
    simp_all
  have jobs : g'.jobs = g.jobs :=
    Option.map_injective toString_injective (by simpa [values] using first .jobs)
  have timeout : g'.timeout = g.timeout :=
    Option.map_injective toString_injective (by simpa [values] using first .timeout)
  have format : g'.format = g.format :=
    Option.map_injective formatName_injective (by simpa [values] using first .format)
  rw [← source, ← jobs, ← timeout, ← format, ← fixture]

end Given

end Conformance.CommandLine

/-! ## Commands and their command lines -/

namespace Conformance.Command

open Conformance.CommandLine

def name : Command → String
  | .run .. => "run"
  | .parse .. => "parse"
  | .list _ => "list"

def level : Command → Level
  | .run .. => .run
  | .parse .. => .parse
  | .list _ => .list

def operands : Command → List String
  | .parse fixture _ _ => ["--", fixture]
  | .run .. | .list _ => []

/-- A command that has words: no path is empty, and every number is one of 64 bits. -/
def IsSayable : Command → Prop
  | .run source jobs timeout _ =>
    source.config ≠ some "" ∧ source.root ≠ some "" ∧
      (∀ n ∈ jobs, n ≤ maxNumber) ∧ ∀ n ∈ timeout, n ≤ maxNumber
  | .parse fixture _ config => fixture ≠ "" ∧ config ≠ some ""
  | .list source => source.config ≠ some "" ∧ source.root ≠ some ""

/-- What the options of a command ask for. A report of text need not be asked for. -/
inductive Asks : Command → Given → Prop
  | run {source : SuiteSource} {jobs timeout : Option Nat} {format : ReportFormat} :
    Asks (.run source jobs timeout format)
      { source := source, jobs := jobs, timeout := timeout, format := some format }
  | text {source : SuiteSource} {jobs timeout : Option Nat} :
    Asks (.run source jobs timeout .text) { source := source, jobs := jobs, timeout := timeout }
  | parse {fixture : String} {language config : Option String} :
    Asks (.parse fixture language config) { source := { language := language, config := config } }
  | list {source : SuiteSource} : Asks (.list source) { source := source }

variable {c : Command} {g : Given}

theorem Asks.fits (asks : c.Asks g) (sayable : c.IsSayable) {o : Opt} {value : String}
    (among : value ∈ g.values o) : o.Fits value := by
  cases asks with
  | run | text =>
    obtain ⟨config, root, jobs, timeout⟩ := sayable
    exact Given.fits config root jobs timeout among
  | parse =>
    obtain ⟨-, config⟩ := sayable
    exact Given.fits config (by simp) (by simp) (by simp) among
  | list =>
    obtain ⟨config, root⟩ := sayable
    exact Given.fits config root (by simp) (by simp) among

theorem Asks.fixture_eq_none (asks : c.Asks g) : g.fixture = none := by
  cases asks <;> rfl

theorem Asks.mem_options (asks : c.Asks g) {o : Opt} {value : String}
    (among : value ∈ g.values o) : o ∈ c.level.options := by
  cases asks <;> cases o <;>
    simp_all [Given.values, level, Level.options, sourceOptions]

theorem verbose_mem_options (c : Command) : .verbose ∈ c.level.options := by
  cases c <;> simp [level, Level.options]

theorem Asks.perDirectory_mem_options (asks : c.Asks g) (dirs : g.source.perDirectory = true) :
    .perDirectory ∈ c.level.options := by
  cases asks <;> simp_all [level, Level.options, sourceOptions]

def IsWritten (c : Command) (raised : Nat) (words : List String) : Prop :=
  ∃ g arranged, c.Asks g ∧ g.IsArranged raised arranged ∧
    words = c.name :: (arranged.map Setting.word ++ c.operands)

theorem Asks.opt_mem_options (asks : c.Asks g) {raised : Nat} {arranged : List Setting}
    (h : g.IsArranged raised arranged) : ∀ x ∈ arranged, x.opt ∈ c.level.options := by
  intro x among
  cases x with
  | verbose => exact c.verbose_mem_options
  | perDirectory =>
    refine asks.perDirectory_mem_options ?_
    have counted := h.count_perDirectory
    have positive := List.count_pos_iff.mpr among
    cases dirs : g.source.perDirectory with
    | true => rfl
    | false =>
      rw [dirs, Bool.toNat_false] at counted
      omega
  | valued o value => exact asks.mem_options (h.mem_values among)

theorem words_operands (asks : c.Asks g) (sayable : c.IsSayable) (verbose : Option Nat) :
    ∃ last, ({ given := { g with verbose } } : State).words c.level c.operands = .ok last ∧
      last.given.verbose = verbose ∧ command c.level last.given = .ok c := by
  cases asks with
  | run | text | list => exact ⟨_, rfl, rfl, rfl⟩
  | @parse path language config =>
    obtain ⟨nonempty, -⟩ := sayable
    let given : Given := { source := { language := language, config := config }, verbose }
    -- two dashes, then a word that is pending until the end
    have words : ({ given := given } : State).words .parse ["--", path] =
        ({ given := given, pending := .fixture path, plain := true } : State).settle := rfl
    exact ⟨_, words.trans (if_neg nonempty), rfl, rfl⟩

theorem read_name (c : Command) (rest : List String) :
    CommandLine.read (c.name :: rest) = do
      let last ← ({} : State).words c.level rest
      let command ← command c.level last.given
      return { verbosity := last.given.verbose.getD 0, command } := by
  have top : CommandLine.read (c.name :: rest) = do
      let last ← ({} : State).words c.level rest
      let command ← command c.level last.given
      return { verbosity := (last.given.verbose.or none).getD 0, command } := by
    cases c <;> rfl
  simpa only [Option.or_none] using top

/-- A command line is read as the command that it is written for; logging is raised as often as the
words say, though at most 255 times. -/
theorem read_of_isWritten {raised : Nat} {words : List String} (sayable : c.IsSayable)
    (written : c.IsWritten raised words) :
    CommandLine.read words = .ok { verbosity := min raised 255, command := c } := by
  obtain ⟨g, arranged, asks, ordered, rfl⟩ := written
  have readable : AreReadable arranged := ordered.areReadable fun o value => asks.fits sayable
  obtain ⟨g', read, holds⟩ : ∃ g', arranged.foldlM Given.apply {} = .ok g' ∧ g'.Holds arranged :=
    Given.holds_nothing.foldlM readable
  have values (o : Opt) : g'.values o = g.values o := (holds.values o).trans (ordered.values o)
  have dirs : g'.source.perDirectory = g.source.perDirectory := by
    rw [Bool.eq_iff_iff, holds.perDirectory, ← List.count_pos_iff, ordered.count_perDirectory]
    cases g.source.perDirectory <;> decide
  have fixture : g'.fixture = g.fixture := by
    rw [holds.fixture, asks.fixture_eq_none]
  obtain ⟨last, operands, verbose, complete⟩ := words_operands asks sayable g'.verbose
  rw [← Given.eq_of_values values dirs fixture] at operands
  have all : ({} : State).words c.level (arranged.map Setting.word ++ c.operands) = .ok last := by
    rw [State.words_settings (asks.opt_mem_options ordered) readable.fits, read]
    exact operands
  have counted : last.given.verbose.getD 0 = min raised 255 := by
    rw [verbose, holds.verbose, ordered.count_verbose, min_comm]
  rw [read_name, bind_eq_ok_iff]
  refine ⟨last, all, bind_eq_ok_iff.mpr ⟨c, complete, ?_⟩⟩
  rw [counted]
  rfl

/-- Values that look like options, in an order of their own. -/
theorem read_scrambled :
    let c : Command := .run
      { config := some "--help", interpreter := some "-x=1", args := ["--", "-v", ""],
        perDirectory := true, suites := ["--suite=a", "b"] } (some 4) none .text
    let words := ["run", "--suite=--suite=a", "-v", "--arg=--", "--jobs=4", "--per-directory",
      "--arg=-v", "--interpreter=-x=1", "-v", "--arg=", "--suite=b", "--config=--help"]
    c.IsSayable ∧ c.IsWritten 2 words ∧ CommandLine.read words = .ok ⟨min 2 255, c⟩ := by
  intro c words
  have sayable : c.IsSayable := by simp [c, IsSayable, maxNumber]
  have written : c.IsWritten 2 words := by
    refine ⟨_, [.valued .suite "--suite=a", .verbose, .valued .arg "--", .valued .jobs "4",
      .perDirectory, .valued .arg "-v", .valued .interpreter "-x=1", .verbose, .valued .arg "",
      .valued .suite "b", .valued .config "--help"], .text, ⟨?_, rfl, rfl⟩, rfl⟩
    decide
  exact ⟨sayable, written, read_of_isWritten sayable written⟩

end Conformance.Command
