import Mathlib.Data.List.Forall2
import Conformance.Interpreter
import Conformance.Proofs.Text.Substitution

/-! # Argument templates

A template is filled in once: each argument is cut at its placeholders and joined with the path, and
the path itself is never cut. A template without placeholder gets the path as one more argument.
Either way the arguments tell the path, so two fixtures are never run by the same command line.
-/

namespace Conformance.Interpreter

variable {i : Interpreter} {arg path : String}

/-- An argument with the path in the place of each placeholder: its parts, for which there is only
one choice, joined with the path. -/
def Expands (path arg out : String) : Prop :=
  ∃ parts, (∀ others, Text.IsSplit placeholder.toList arg.toList others ↔ others = parts) ∧
    out.toList = path.toList.intercalate parts

-- the placeholder starts with a brace that does not come again, so it cannot overlap itself
theorem brace_fresh : '\x7b' ∉ "fixture\x7d".toList := by decide

theorem exists_isSplit_iff (arg : String) : ∃ parts,
    ∀ others, Text.IsSplit placeholder.toList arg.toList others ↔ others = parts := by
  obtain ⟨parts, cut⟩ := Text.exists_isSplit placeholder.toList arg.toList (by decide)
  refine ⟨parts, fun others => ⟨fun cut' => ?_, fun same => same ▸ cut⟩⟩
  exact Text.IsSplit.unique brace_fresh cut' cut

theorem toList_fillIn {parts : List (List Char)}
    (cut : Text.IsSplit placeholder.toList arg.toList parts) :
    (fillIn path arg).toList = path.toList.intercalate parts := by
  rw [fillIn, String.toList_ofList]
  exact Text.substitute_eq_intercalate brace_fresh cut

theorem expands_fillIn (path arg : String) : Expands path arg (fillIn path arg) := by
  obtain ⟨parts, only⟩ := exists_isSplit_iff arg
  exact ⟨parts, only, toList_fillIn ((only parts).mpr rfl)⟩

theorem fillIn_injective (held : placeholder.toList <:+: arg.toList) :
    Function.Injective fun path => fillIn path arg := by
  intro path other same
  obtain ⟨parts, cut⟩ := Text.exists_isSplit placeholder.toList arg.toList (by decide)
  have joined : path.toList.intercalate parts = other.toList.intercalate parts := by
    rw [← toList_fillIn cut, ← toList_fillIn cut]
    exact congrArg String.toList same
  exact String.toList_inj.mp (Text.eq_of_intercalate_eq (cut.one_lt_length held) joined)

theorem hasPlaceholder_iff : (i.args.any fun arg => Text.contains arg placeholder) = true ↔
    ∃ arg ∈ i.args, placeholder.toList <:+: arg.toList := by
  simp only [List.any_eq_true, Text.contains_iff]

theorem arguments_of_placeholder (path : String)
    (held : ∃ arg ∈ i.args, placeholder.toList <:+: arg.toList) :
    i.arguments path = i.args.map (fillIn path) :=
  if_pos (hasPlaceholder_iff.mpr held)

theorem arguments_of_no_placeholder (path : String)
    (none : ¬ ∃ arg ∈ i.args, placeholder.toList <:+: arg.toList) :
    i.arguments path = i.args ++ [path] :=
  if_neg (mt hasPlaceholder_iff.mp none)

/-- The arguments are the template followed by the path if no argument has a placeholder, and else
the expansion of each argument. They differ for different paths. -/
theorem arguments_faithful (i : Interpreter) :
    (∀ path, (∀ arg ∈ i.args, ¬ placeholder.toList <:+: arg.toList) →
      i.arguments path = i.args ++ [path]) ∧
    (∀ path, (∃ arg ∈ i.args, placeholder.toList <:+: arg.toList) →
      List.Forall₂ (Expands path) i.args (i.arguments path)) ∧
    Function.Injective i.arguments := by
  refine ⟨fun path none => arguments_of_no_placeholder path (by simpa using none), ?_, ?_⟩
  · intro path held
    rw [arguments_of_placeholder path held, List.forall₂_map_right_iff, List.forall₂_same]
    exact fun arg _ => expands_fillIn path arg
  · intro path other same
    by_cases held : ∃ arg ∈ i.args, placeholder.toList <:+: arg.toList
    · rw [arguments_of_placeholder path held, arguments_of_placeholder other held,
        List.map_inj_left] at same
      obtain ⟨arg, listed, held⟩ := held
      exact fillIn_injective held (same arg listed)
    · rw [arguments_of_no_placeholder path held, arguments_of_no_placeholder other held] at same
      simpa using same

/-- A fixture whose path holds the placeholder: the path is put in twice and stays as it is, and an
interpreter without placeholder takes it last. -/
theorem arguments_faithful_nested :
    let path := "a/" ++ placeholder
    let twice : Interpreter :=
      { executable := "java", args := ["-jar", placeholder ++ "=" ++ placeholder] }
    let last : Interpreter := { executable := "clox", args := ["--quiet"] }
    ((∃ arg ∈ twice.args, placeholder.toList <:+: arg.toList) ∧
      List.Forall₂ (Expands path) twice.args (twice.arguments path) ∧
      twice.arguments path = ["-jar", path ++ "=" ++ path]) ∧
    (∀ arg ∈ last.args, ¬ placeholder.toList <:+: arg.toList) ∧
      last.arguments path = ["--quiet", path] := by
  intro path twice last
  have held : ∃ arg ∈ twice.args, placeholder.toList <:+: arg.toList := by decide
  have none : ∀ arg ∈ last.args, ¬ placeholder.toList <:+: arg.toList := by decide
  exact ⟨⟨held, (arguments_faithful twice).2.1 path held, by decide⟩,
    none, (arguments_faithful last).1 path none⟩

end Conformance.Interpreter
