import GraphTypes.CommandLine.Arguments

/-!
# What a command line asks for

A command line is read as flags with their values for as long as nothing is refused (`line`). What
has been read so far depends on the values of each flag alone, so flags can change places
(`scan_line`). Every command line that is not of this form to its end, or to a last flag that has no
value, comes to a word that is refused, and nothing behind that word matters (`Meets`).
-/

namespace GraphTypes.CommandLine

/-! ### Flags with their values -/

namespace Flag

/-- The word that spells a flag. -/
def word : Flag → String
  | url => "--url"
  | schema => "--schema"
  | document => "--document"
  | config => "--config"
  | plugin => "--plugin"
  | out => "--out"

theorem ofText?_word (flag : Flag) : ofText? flag.word = some flag := by
  cases flag <;> rfl

theorem eq_word_of_ofText? {text : String} {flag : Flag} (h : ofText? text = some flag) :
    text = flag.word := by
  rw [ofText?.eq_def] at h
  split at h <;> cases h <;> rfl

end Flag

namespace Arguments

/-- The words of flags with their values, which can be any words. -/
def line (pairs : List (Flag × String)) : List String :=
  pairs.flatMap fun pair => [pair.1.word, pair.2]

/-- The values of one flag, in order. -/
def values (flag : Flag) (pairs : List (Flag × String)) : List String :=
  (pairs.filter (·.1 = flag)).map (·.2)

/-- The names that the flag for generators can have as its value. -/
def selections : List String := ["types", "resolvers", "all"]

/-- What is selected by a name, and without one. -/
def selected : Option String → List Generator
  | some "types" => [.types]
  | some "resolvers" => [.resolvers]
  | _ => [.types, .resolvers]

/-- What flags with their values ask for: the last value of each counts, and every document. -/
def asked (pairs : List (Flag × String)) : Arguments where
  url := (values .url pairs).getLast?
  schema := (values .schema pairs).getLast?
  documents := values .document pairs
  config := (values .config pairs).getLast?
  generators := selected (values .plugin pairs).getLast?
  out := (values .out pairs).getLast?

/-- Every value of the flag for generators selects some. -/
def Selectable (pairs : List (Flag × String)) : Prop :=
  ∀ name ∈ values .plugin pairs, name ∈ selections

theorem generatorsOf?_eq {name : String} :
    generatorsOf? name = if name ∈ selections then some (selected (some name)) else none := by
  rw [generatorsOf?.eq_def, selected.eq_def]
  split <;> simp_all [selections]

theorem values_append (flag : Flag) (pairs pairs' : List (Flag × String)) :
    values flag (pairs ++ pairs') = values flag pairs ++ values flag pairs' := by
  rw [values, List.filter_append, List.map_append, values, values]

theorem selectable_cons {pair : Flag × String} {rest : List (Flag × String)} :
    Selectable (pair :: rest) ↔ Selectable [pair] ∧ Selectable rest := by
  rw [Selectable, ← List.singleton_append, values_append]
  exact List.forall_mem_append

/-- Only the flag for generators minds its value. -/
theorem selectable_singleton {flag : Flag} {value : String} :
    Selectable [(flag, value)] ↔ (flag = .plugin → value ∈ selections) := by
  by_cases plugin : flag = .plugin <;> simp [Selectable, values, plugin]

/-! ### Reading flags -/

/-- A further flag adds its value to those that there were. -/
theorem set_asked {flag : Flag} {value : String} (h : Selectable [(flag, value)])
    (pairs : List (Flag × String)) :
    (asked pairs).set flag (some value) = .ok (asked (pairs ++ [(flag, value)])) := by
  cases flag with
  | plugin =>
    have name := selectable_singleton.mp h rfl
    simp [set, generatorsOf?_eq, name, asked, values]
  | _ => simp [set, asked, values]

theorem selectable_of_set {a a' : Arguments} {flag : Flag} {value : String}
    (h : a.set flag (some value) = .ok a') : Selectable [(flag, value)] := by
  rw [selectable_singleton]
  rintro rfl
  by_cases known : value ∈ selections
  · exact known
  · simp [set, generatorsOf?_eq, known] at h

theorem set_eq_error {a : Arguments} {flag : Flag} {value : String} {e : Refusal}
    (h : a.set flag (some value) = .error e) :
    flag = .plugin ∧ value ∉ selections ∧ e = .unknownGenerator value := by
  cases flag with
  | plugin =>
    by_cases known : value ∈ selections
    · simp [set, generatorsOf?_eq, known] at h
    · simp only [set, generatorsOf?_eq, known, if_false, Except.error.injEq] at h
      exact ⟨rfl, known, h.symm⟩
  | _ => cases h

theorem scan_flag (a : Arguments) (flag : Flag) (value : String) (rest : List String) :
    a.scan (flag.word :: value :: rest) = a.set flag (some value) >>= fun a => a.scan rest := by
  rw [scan.eq_def]
  simp only [Flag.ofText?_word]
  cases a.set flag (some value) <;> rfl

/-- Flags with their values are read, and reading goes on behind them. -/
theorem scan_line {pairs : List (Flag × String)} (h : Selectable pairs)
    (before : List (Flag × String)) (ending : List String) :
    (asked before).scan (line pairs ++ ending) = (asked (before ++ pairs)).scan ending := by
  induction pairs generalizing before with
  | nil =>
    rw [List.append_nil]
    rfl
  | cons pair rest ih =>
    obtain ⟨flag, value⟩ := pair
    obtain ⟨first, others⟩ := selectable_cons.mp h
    calc (asked before).scan (line ((flag, value) :: rest) ++ ending)
      _ = (asked before).scan (flag.word :: value :: (line rest ++ ending)) := rfl
      _ = (asked (before ++ [(flag, value)])).scan (line rest ++ ending) := by
        rw [scan_flag, set_asked first]
        rfl
      _ = (asked (before ++ (flag, value) :: rest)).scan ending := by
        rw [ih others, List.append_assoc, List.singleton_append]

theorem asked_congr {pairs pairs' : List (Flag × String)}
    (same : ∀ flag, values flag pairs' = values flag pairs) : asked pairs' = asked pairs := by
  simp only [asked, same]

/-! ### Refusals -/

/-- A command line is refused for its first word, or for the value of the flag that this word
spells. -/
inductive Refused : List String → Refusal → Prop
  | help {word : String} {rest : List String} (asks : word = "--help" ∨ word = "-h") :
    Refused (word :: rest) .help
  | unknownArgument {word : String} {rest : List String}
    (unspelled : ∀ flag : Flag, word ≠ flag.word) (other : ¬ (word = "--help" ∨ word = "-h")) :
    Refused (word :: rest) (.unknownArgument word)
  | unknownGenerator {name : String} {rest : List String} (unknown : name ∉ selections) :
    Refused (Flag.plugin.word :: name :: rest) (.unknownGenerator name)
  | missingGenerator : Refused [Flag.plugin.word] .missingGenerator

/-- Behind flags with their values a command line comes to what it is refused for. -/
def Meets (words : List String) (e : Refusal) : Prop :=
  ∃ pairs ending, Selectable pairs ∧ words = line pairs ++ ending ∧ Refused ending e

theorem Meets.cons {flag : Flag} {value : String} {rest : List String} {e : Refusal}
    (first : Selectable [(flag, value)]) (h : Meets rest e) :
    Meets (flag.word :: value :: rest) e := by
  obtain ⟨pairs, ending, others, rfl, refused⟩ := h
  exact ⟨(flag, value) :: pairs, ending, selectable_cons.mpr ⟨first, others⟩, rfl, refused⟩

theorem Refused.meets {words : List String} {e : Refusal} (h : Refused words e) : Meets words e :=
  ⟨[], words, by simp [Selectable, values], rfl, h⟩

theorem refused_refuse {word : String} (h : Flag.ofText? word = none) (rest : List String) :
    Refused (word :: rest) (refuse word) := by
  rw [refuse]
  split
  · next asks => exact .help asks
  · next other =>
    refine .unknownArgument ?_ other
    rintro flag rfl
    rw [Flag.ofText?_word] at h
    cases h

theorem scan_of_refused {words : List String} {e : Refusal} (h : Refused words e) (a : Arguments) :
    a.scan words = .error e := by
  cases h with
  | help asks => rcases asks with rfl | rfl <;> rfl
  | @unknownArgument word rest unspelled other =>
    have none : Flag.ofText? word = none := by
      rw [Option.eq_none_iff_forall_ne_some]
      exact fun flag spelled => unspelled flag (Flag.eq_word_of_ofText? spelled)
    rw [scan.eq_def]
    simp [none, refuse, other]
  | unknownGenerator unknown =>
    rw [scan_flag]
    simp [set, generatorsOf?_eq, unknown, bind, Except.bind]
  | missingGenerator => rfl

/-- What a scan is refused for stands behind flags with their values. -/
theorem meets_of_scan {a : Arguments} {words : List String} {e : Refusal}
    (h : a.scan words = .error e) : Meets words e := by
  fun_induction scan a words with
  | case1 a => cases h
  | case2 a word rest none =>
    cases h
    exact (refused_refuse none rest).meets
  | case3 a word flag spelled =>
    cases Flag.eq_word_of_ofText? spelled
    cases flag with
    | plugin =>
      cases h
      exact Refused.missingGenerator.meets
    | _ => cases h
  | case4 a word flag value rest spelled a' done ih =>
    cases Flag.eq_word_of_ofText? spelled
    exact (ih h).cons (selectable_of_set done)
  | case5 a word flag value rest spelled e' failed =>
    cases Flag.eq_word_of_ofText? spelled
    cases h
    obtain ⟨rfl, unknown, rfl⟩ := set_eq_error failed
    exact (Refused.unknownGenerator unknown).meets

/-! ### The result -/

/-- A schema is given by a file or by an address. -/
def GivesSchema (pairs : List (Flag × String)) : Prop :=
  ∃ pair ∈ pairs, pair.1 = .url ∨ pair.1 = .schema

theorem parse_line {pairs : List (Flag × String)} (h : Selectable pairs) :
    parse (line pairs) =
      if (asked pairs).url.isNone && (asked pairs).schema.isNone then .error .missingSchema
      else .ok (asked pairs) := by
  have read := scan_line h [] []
  rw [List.append_nil, List.nil_append] at read
  have start : ({} : Arguments) = asked [] := rfl
  rw [parse, start, read]
  rfl

theorem schema_of_givesSchema {pairs : List (Flag × String)} (h : GivesSchema pairs) :
    ((asked pairs).url.isNone && (asked pairs).schema.isNone) = false := by
  obtain ⟨⟨flag, value⟩, hmem, rfl | rfl⟩ := h
  · have given : value ∈ values .url pairs := by simpa [values] using hmem
    simp [asked, List.ne_nil_of_mem given]
  · have given : value ∈ values .schema pairs := by simpa [values] using hmem
    simp [asked, List.ne_nil_of_mem given]

/-- Flags with their values can be given in any order and more than once, with values that look like
anything, even like flags. Of each flag the last value counts, and of the flag for documents all do,
so only the order among the values of one flag matters. A command line is refused for the first word
that is no flag where one has to be, or the first that selects no generators where one has to,
whatever comes behind it; and for nothing else, unless no schema is given. -/
theorem parse_reads_flags :
    (∀ pairs, Selectable pairs → GivesSchema pairs → parse (line pairs) = .ok (asked pairs)) ∧
    (∀ pairs pairs', Selectable pairs → (∀ flag, values flag pairs' = values flag pairs) →
      parse (line pairs') = parse (line pairs)) ∧
    (∀ words e, Meets words e → parse words = .error e) ∧
    ∀ words e, parse words = .error e → Meets words e ∨ e = .missingSchema := by
  refine ⟨?_, ?_, ?_, ?_⟩
  · intro pairs selectable given
    rw [parse_line selectable, schema_of_givesSchema given]
    rfl
  · intro pairs pairs' selectable same
    have selectable' : Selectable pairs' := by
      rw [Selectable, same]
      exact selectable
    rw [parse_line selectable', parse_line selectable, asked_congr same]
  · rintro words e ⟨pairs, ending, selectable, rfl, refused⟩
    have start : ({} : Arguments) = asked [] := rfl
    rw [parse, start, scan_line selectable, scan_of_refused refused]
  · intro words e h
    rw [parse] at h
    cases hscan : scan {} words with
    | error e' =>
      rw [hscan] at h
      cases h
      exact Or.inl (meets_of_scan hscan)
    | ok a =>
      rw [hscan] at h
      dsimp only at h
      split at h <;> cases h
      exact Or.inr rfl

/-- Values that spell flags, flags that are given twice, and words behind one that is refused. -/
theorem parse_reads_flags_twice :
    let pairs := [(Flag.schema, "--url"), (.document, "--help"), (.plugin, "resolvers"),
      (.document, "a.graphql"), (.schema, "s.graphql"), (.plugin, "types")]
    let pairs' := [(Flag.plugin, "resolvers"), (.plugin, "types"), (.schema, "--url"),
      (.schema, "s.graphql"), (.document, "--help"), (.document, "a.graphql")]
    let wanted : Arguments :=
      { schema := some "s.graphql", documents := ["--help", "a.graphql"], generators := [.types] }
    (Selectable pairs ∧ GivesSchema pairs ∧ parse (line pairs) = .ok wanted) ∧
    ((∀ flag, values flag pairs' = values flag pairs) ∧
      parse (line pairs') = parse (line pairs)) ∧
    Meets (line pairs ++ ["--plugin", "flow", "-h"]) (.unknownGenerator "flow") ∧
      parse (line pairs ++ ["--plugin", "flow", "-h"]) = .error (.unknownGenerator "flow") := by
  intro pairs pairs' wanted
  obtain ⟨given, reordered, refused, -⟩ := parse_reads_flags
  have selectable : Selectable pairs := by
    intro name hname
    simp only [values, pairs, selections] at hname ⊢
    revert name
    decide
  have gives : GivesSchema pairs := ⟨(.schema, "--url"), by simp [pairs], Or.inr rfl⟩
  have same : ∀ flag, values flag pairs' = values flag pairs := by
    intro flag
    cases flag <;> rfl
  have meets : Meets (line pairs ++ ["--plugin", "flow", "-h"]) (.unknownGenerator "flow") :=
    ⟨pairs, _, selectable, rfl, .unknownGenerator (by decide)⟩
  exact ⟨⟨selectable, gives, given pairs selectable gives⟩,
    ⟨same, reordered pairs pairs' selectable same⟩, meets, refused _ _ meets⟩

end Arguments

end GraphTypes.CommandLine
