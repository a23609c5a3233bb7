/-
Module: RpcBindings.Proofs.Name.Portable
Purpose: Texts of letters, digits, underscores, dots, hyphens and slashes, and what is made of them.
Main exports: Name.isPortable, Name.Portable, Name.Portable.of_subset, Name.Portable.brackets_eq,
  Name.Portable.unbroken
-/
import RpcBindings.Path
import RpcBindings.Proofs.Declarations.PlainNames
import RpcBindings.Proofs.Layout.Brackets
import RpcBindings.Target.Declarations.File

namespace RpcBindings.Name

/-!
Names, references and paths of files need not be identifiers, but in practice they hold none of the
characters by which generated code is structured.  Whatever is spelled from them holds none either.
-/

/-- The characters of portable names and paths. -/
def isPortable (c : Char) : Bool :=
  isWordChar c || c == '.' || c == '-' || c == '/'

def Portable (text : String) : Prop :=
  ∀ c ∈ text.toList, isPortable c = true

instance : DecidablePred Portable := fun text =>
  List.decidableBAll (fun c => isPortable c = true) text.toList

theorem toNat_lt_of_isPortable {c : Char} (portable : isPortable c = true) : c.toNat < 0x80 := by
  rw [isPortable, Bool.or_eq_true, Bool.or_eq_true, Bool.or_eq_true, beq_iff_eq, beq_iff_eq,
    beq_iff_eq] at portable
  rcases portable with ((word | rfl) | rfl) | rfl
  · exact toNat_lt_of_isWordChar word
  · decide
  · decide
  · decide

theorem isPortable_of_code :
    ∀ code < 0x80, isPortable (Char.ofNat code) = true →
      isPortable (Char.ofNat code).toLower = true ∧
        isPortable (Char.ofNat code).toUpper = true := by
  decide

theorem caseStable_isPortable : CaseStable isPortable :=
  (caseClosed_of_codes (fun _ => toNat_lt_of_isPortable) isPortable_of_code).stable

theorem isBracket_eq_false_of_isPortable {c : Char} (portable : isPortable c = true) :
    Layout.isBracket c = false :=
  forall_ascii (fun c => isPortable c = true → Layout.isBracket c = false) (by decide)
    (toNat_lt_of_isPortable portable) portable

namespace Portable

variable {name : String} (portable : Portable name)

include portable

theorem of_subset {part : String} (subset : ∀ c ∈ part.toList, c ∈ name.toList) :
    Portable part :=
  fun c member => portable c (subset c member)

/-- Portable texts hold no brackets. -/
theorem brackets_eq : Layout.brackets name = [] := by
  rw [Layout.brackets, List.filter_eq_nil_iff]
  intro c member bracket
  rw [isBracket_eq_false_of_isPortable (portable c member)] at bracket
  cases bracket

theorem wellBracketed : Layout.WellBracketed name :=
  .of_brackets_eq_nil portable.brackets_eq

theorem unbroken : Layout.Unbroken name :=
  fun inside => absurd (portable _ inside) (by decide)

/-- A name between two texts of which the brackets match. -/
theorem between {front back : String} (before : Layout.WellBracketed front)
    (behind : Layout.WellBracketed back) : Layout.WellBracketed (front ++ name ++ back) :=
  (before.append portable.wellBracketed).append behind

theorem append {other : String} (also : Portable other) : Portable (name ++ other) := by
  rw [Portable, String.toList_append, List.forall_mem_append]
  exact ⟨portable, also⟩

/-! ### Spellings -/

theorem camel : Portable (Name.camel name) :=
  caseStable_isPortable.camel fun c member _ => portable c member

theorem pascal : Portable (Name.pascal name) :=
  caseStable_isPortable.pascal fun c member _ => portable c member

theorem kebab : Portable (Name.kebab name) := by
  rw [Portable, toList_kebab]
  exact caseStable_isPortable.separated (fun c member _ => portable c member) (by decide)

theorem snake : Portable (Name.snake name) := by
  rw [Portable, toList_snake]
  exact caseStable_isPortable.separated (fun c member _ => portable c member) (by decide)

theorem decapitalize : Portable (Name.decapitalize name) :=
  caseStable_isPortable.decapitalize portable

theorem capitals : Portable (Unicode.capitals name) :=
  caseStable_isPortable.capitals portable

theorem trim : Portable (Text.trim name) := by
  refine portable.of_subset fun c member => ?_
  rw [Text.toList_trim, Text.trimBlanks, List.mem_reverse] at member
  have inside := (List.dropWhile_sublist _).subset member
  rw [List.mem_reverse] at inside
  exact (List.dropWhile_sublist _).subset inside

theorem raiseAcronym : Portable (Name.raiseAcronym name) := by
  have bare := portable.trim
  unfold Name.raiseAcronym
  simp only
  split
  · next stem reversed =>
    split
    · exact bare.capitals
    · have ending : Portable (String.ofList ['I', 'D']) := by decide
      rw [String.ofList_append]
      refine Portable.append (bare.of_subset fun c member => ?_) ending
      rw [String.toList_ofList, List.mem_reverse] at member
      rw [← List.mem_reverse, reversed]
      exact List.mem_cons_of_mem _ (List.mem_cons_of_mem _ member)
  · split
    · exact bare.capitals
    · exact bare
  · split
    · decide
    · split
      · decide
      · exact bare

theorem actionType {method : String} (methodPortable : Portable method) :
    Portable (Name.actionType name method) :=
  (portable.capitals.append (by decide)).append methodPortable.snake.capitals

/-! ### Parts of references and paths -/

theorem lastSegment : Portable (Name.lastSegment name) := by
  refine portable.of_subset fun c member => ?_
  rw [Name.lastSegment, String.toList_ofList, List.mem_reverse] at member
  exact List.mem_reverse.mp ((List.takeWhile_sublist _).subset member)

theorem withoutLeadingDot : Portable (Name.withoutLeadingDot name) := by
  unfold Name.withoutLeadingDot
  split
  · next rest dotted =>
    refine portable.of_subset fun c member => ?_
    rw [dotted]
    exact List.mem_cons_of_mem _ (by simpa using member)
  · exact portable

theorem qualified : Portable (Name.qualified name) := by
  unfold Name.qualified
  split
  · exact portable
  · have dot : Portable "." := by decide
    exact dot.append portable

/-- What completes a package to a reference is a part of the reference. -/
theorem localName? {package rest : String} (found : Name.localName? package name = some rest) :
    Portable rest := by
  refine portable.of_subset fun c member => ?_
  rw [localName?_eq_some_iff.mp found, Name.member, String.toList_append]
  exact List.mem_append_right _ member

theorem firstSegment : Portable (TypeImports.firstSegment name) := by
  refine portable.of_subset fun c member => ?_
  rw [TypeImports.firstSegment, String.toList_ofList] at member
  exact (List.takeWhile_sublist _).subset member

theorem namespacePath? {path : String} (found : Declarations.namespacePath? name = some path) :
    Portable path := by
  unfold Declarations.namespacePath? at found
  split at found
  · next first rest dropped =>
    obtain rfl := Option.some.inj found
    refine portable.of_subset fun c member => ?_
    rw [String.toList_ofList] at member
    have inside : c ∈ name.toList.dropWhile fun c => c != '.' := by
      rw [dropped]
      exact List.mem_cons_of_mem _ member
    exact (List.dropWhile_sublist _).subset inside
  · cases found

theorem stem : Portable (Path.stem name) :=
  portable.of_subset fun _ member => Path.mem_of_mem_stem member

theorem declarationModule : Portable (Path.declarationModule name) := by
  have front : Portable "./" := by decide
  have back : Portable ".d" := by decide
  exact (front.append portable.stem).append back

end Portable

end RpcBindings.Name
