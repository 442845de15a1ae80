import CatalogEntities.CommandLine.Invocation

/-!
# `Proofs/CommandLine.lean` — tables named on a command line

A table is named as an operand or as the value of an option, and a command line may mix the two.
Whatever the mixture, the command is for the tables that are named, the operands first
(`generateOfWords_mentions`).

The value of an option is looked at only when the next word comes, so what is given at some word is
not what has been read by then. The induction is therefore on what would be given if the words ended
here.

It is used where a request is only known by its names: whoever asks for some tables may write them
in any order and either way, and gets the same files.
-/

set_option autoImplicit false

namespace CatalogEntities.CommandLine

/-- **A table named on a command line**, as a word of its own or behind `-t`. -/
inductive Mention
  | operand (table : String)
  | option (table : String)

namespace Mention

def table : Mention → String
  | operand table | option table => table

def words : Mention → List String
  | operand table => [table]
  | option table => ["-t", table]

/-- Names that begin with a dash would be taken for options. -/
def IsPlain (mention : Mention) : Prop := mention.table.toList.head? ≠ some '-'

def operand? : Mention → Option String
  | operand table => some table
  | option _ => none

def option? : Mention → Option String
  | operand _ => none
  | option table => some table

/-- The tables that a command is for. That operands come first is the order in which the program
puts the two together, and not that of the words. -/
def request (mentions : List Mention) : List String :=
  mentions.filterMap operand? ++ mentions.filterMap option?

theorem mem_request {mentions : List Mention} {name : String} :
    name ∈ request mentions ↔ ∃ mention ∈ mentions, mention.table = name := by
  rw [request, List.mem_append, List.mem_filterMap, List.mem_filterMap]
  constructor
  · rintro (⟨mention, hmem, h⟩ | ⟨mention, hmem, h⟩)
    · cases mention with
      | operand table => exact ⟨_, hmem, Option.some.inj h⟩
      | option table => exact absurd h (by simp [operand?])
    · cases mention with
      | operand table => exact absurd h (by simp [option?])
      | option table => exact ⟨_, hmem, Option.some.inj h⟩
  · rintro ⟨mention, hmem, rfl⟩
    cases mention with
    | operand table => exact Or.inl ⟨_, hmem, rfl⟩
    | option table => exact Or.inr ⟨_, hmem, rfl⟩

end Mention

/-! ## One word -/

section

variable {r : Reading} {given : Given} {table : String}

/-- A word without a dash is the value of an option that waits for one, and else an operand. -/
theorem readWord_of_plain (hplain : table.toList.head? ≠ some '-') :
    r.readWord generateGrammar table =
      match r.waiting? with
      | some rule => .ok ⟨r.given, some (rule, some table)⟩
      | none => r.operand generateGrammar table := by
  have hdash : ∀ rest, table.toList ≠ '-' :: rest := by
    intro rest heq
    exact hplain (by rw [heq]; rfl)
  unfold Reading.readWord
  split
  · exact absurd ‹_› (hdash _)
  · exact absurd ‹_› (hdash _)
  · rename_i hwaiting _ _
    rw [hwaiting]
  · rename_i hwaiting _ _
    rw [hwaiting]

/-- A word is read before the words behind it. -/
theorem readFrom_cons {word : String} {next : Reading} (hword : word ≠ "--")
    (h : r.readWord generateGrammar word = .ok next) (rest : List String) :
    generateGrammar.readFrom r (word :: rest) = generateGrammar.readFrom next rest := by
  have hcommand : generateGrammar.commands.contains word = false := rfl
  rw [Grammar.readFrom, hcommand, Bool.and_false, if_neg (by simp), if_neg hword, h]

theorem ne_dashes_of_plain (hplain : table.toList.head? ≠ some '-') : table ≠ "--" := by
  rintro rfl
  exact hplain rfl

/-- The option that names a table. -/
def tableRule : OptionRule := ⟨"table", some 't', .value true true⟩

/-- **A table that is named is given**, once what is held counts. -/
theorem exists_readFrom (hsettled : r.settled = .ok given) (hwaiting : r.waiting? = none)
    (mention : Mention) (hplain : mention.IsPlain) (rest : List String) :
    ∃ next : Reading,
      generateGrammar.readFrom r (mention.words ++ rest) = generateGrammar.readFrom next rest ∧
        next.settled = .ok ⟨given.options ++ mention.option?.toList.map (("table", ·)),
          given.operands ++ mention.operand?.toList⟩ ∧
        next.waiting? = none := by
  cases mention with
  | operand table =>
    have hread : r.readWord generateGrammar table =
        .ok ⟨⟨given.options, given.operands ++ [table]⟩, none⟩ := by
      have hoperand : r.readWord generateGrammar table = r.operand generateGrammar table := by
        have hword : r.readWord generateGrammar table = _ := readWord_of_plain hplain
        rw [hword, hwaiting]
      rw [hoperand, Reading.operand, hsettled]
      rfl
    refine ⟨_, readFrom_cons (ne_dashes_of_plain hplain) hread rest, ?_, rfl⟩
    simp [Reading.settled, Mention.option?, Mention.operand?]
  | option table =>
    -- first the option is held alone, then with its value
    have hletter : r.readWord generateGrammar "-t" = .ok ⟨given, some (tableRule, none)⟩ := by
      have hawait : r.readWord generateGrammar "-t" = r.await tableRule := rfl
      rw [hawait, Reading.await, hsettled]
      rfl
    have hvalue : (⟨given, some (tableRule, none)⟩ : Reading).readWord generateGrammar table =
        .ok ⟨given, some (tableRule, some table)⟩ := readWord_of_plain hplain
    refine ⟨⟨given, some (tableRule, some table)⟩, ?_, ?_, rfl⟩
    · exact (readFrom_cons (by decide) hletter _).trans
        (readFrom_cons (ne_dashes_of_plain hplain) hvalue rest)
    · simp [Reading.settled, Given.add, tableRule, Mention.option?, Mention.operand?]

end

/-! ## All words -/

theorem exists_readFrom_mentions {mentions : List Mention}
    (hplain : ∀ mention ∈ mentions, mention.IsPlain) {r : Reading} {given : Given}
    (hsettled : r.settled = .ok given) (hwaiting : r.waiting? = none) :
    ∃ next : Reading,
      generateGrammar.readFrom r (mentions.flatMap Mention.words) = .ok ⟨next, none⟩ ∧
        next.settled = .ok
          ⟨given.options ++ (mentions.filterMap Mention.option?).map (("table", ·)),
            given.operands ++ mentions.filterMap Mention.operand?⟩ := by
  -- on the mentions; the state of the reader is known by what it settles to, not by what it holds
  induction mentions generalizing r given with
  | nil => exact ⟨r, rfl, by simpa using hsettled⟩
  | cons mention rest ih =>
    obtain ⟨middle, hread, hmiddle, hready⟩ := exists_readFrom hsettled hwaiting mention
      (hplain _ List.mem_cons_self) (rest.flatMap Mention.words)
    obtain ⟨next, hrest, hnext⟩ :=
      ih (fun other hother => hplain other (List.mem_cons_of_mem _ hother)) hmiddle hready
    refine ⟨next, hread.trans hrest, ?_⟩
    rw [hnext]
    cases mention with
    | operand table => simp [Mention.option?, Mention.operand?, List.filterMap_cons]
    | option table => simp [Mention.option?, Mention.operand?, List.filterMap_cons]

section

variable (names operands : List String)

theorem values_tables : (Given.mk (names.map (("table", ·))) operands).values "table" = names := by
  have hall : (names.map (("table", ·))).filter (·.1 = "table") = names.map (("table", ·)) := by
    rw [List.filter_eq_self]
    intro p hp
    obtain ⟨name, -, rfl⟩ := List.mem_map.1 hp
    rfl
  rw [Given.values, hall, List.map_map]
  exact List.map_id names

theorem value?_tables {option : String} (h : option ≠ "table") :
    (Given.mk (names.map (("table", ·))) operands).value? option = none := by
  rw [Given.value?, List.lookup_eq_none_iff]
  rintro p hp
  obtain ⟨name, -, rfl⟩ := List.mem_map.1 hp
  simpa using h

theorem has_tables {option : String} (h : option ≠ "table") :
    (Given.mk (names.map (("table", ·))) operands).has option = false := by
  rw [Given.has, List.any_eq_false]
  rintro p hp
  obtain ⟨name, -, rfl⟩ := List.mem_map.1 hp
  simpa using h.symm

end

/-- **Tables may be named in any way**, and naming tables sets no other option. -/
theorem generateOfWords_mentions {mentions : List Mention}
    (hplain : ∀ mention ∈ mentions, mention.IsPlain) :
    Command.generateOfWords (mentions.flatMap Mention.words) =
      .ok (.generate (Mention.request mentions) none none false) := by
  obtain ⟨next, hread, hnext⟩ := exists_readFrom_mentions hplain (r := .start) rfl rfl
  rw [Command.generateOfWords, Grammar.read, hread]
  simp only [bind, Except.bind, pure, Except.pure, hnext]
  have hstart : ∀ options : List (String × String), Reading.start.given.options ++ options =
      options := fun _ => rfl
  rw [hstart, values_tables, value?_tables _ _ (by decide), value?_tables _ _ (by decide),
    has_tables _ _ (by decide)]
  rfl

end CatalogEntities.CommandLine
