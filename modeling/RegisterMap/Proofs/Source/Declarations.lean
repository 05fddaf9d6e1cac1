import Mathlib
import RegisterMap.Proofs.Export.Names
import RegisterMap.Proofs.Source.Comments

/-!
# Declarations in generated code

Which functions and fields some code declares is read off its lines, so a statement about declared
names is one about the code and not about the way it is put together.  A function begins in a line
that says so, its name ends at a parenthesis or at a type parameter, and what lies inside of it is
indented.  The lemmas here tell what each way to put lines together declares.
-/

namespace RegisterMap

/-! ## Functions -/

/-- What follows a word at the beginning of some code. -/
def afterWord? (word : String) (cs : List Char) : Option (List Char) := word.toList.isPrefixOf? cs

/-- The name up to a parenthesis or to type parameters. -/
def declaredName (cs : List Char) : String :=
  String.ofList (cs.takeWhile fun c => c != '(' && c != '<')

/-- The name of the function that begins in a line, which may be public and awaited. -/
def function? (l : String) : Option String :=
  let visible := (afterWord? "pub " l.toList).getD l.toList
  let awaited := (afterWord? "async " visible).getD visible
  (afterWord? "fn " awaited).map declaredName

lemma afterWord?_append (word : String) (cs : List Char) :
    afterWord? word (word.toList ++ cs) = some cs :=
  List.isPrefixOf?_eq_some_iff_append_eq.2 rfl

/-- A name reaches up to the first character that is not taken. -/
lemma ofList_takeWhile {name : String} {taken : Char → Bool} {stop : Char}
    (hname : ∀ c ∈ name.toList, taken c = true) (hstop : taken stop = false) (rest : List Char) :
    String.ofList ((name.toList ++ stop :: rest).takeWhile taken) = name := by
  have hstop' : ¬ taken stop = true := by simp [hstop]
  rw [List.takeWhile_append_of_pos hname, List.takeWhile_cons_of_neg hstop', List.append_nil,
    String.ofList_toList]

lemma Unseparated.bne {name : String} (hname : Unseparated name) {stop : Char}
    (hstop : Identifier.isSeparator stop = true) (hne : stop ≠ '_') :
    ∀ c ∈ name.toList, (c != stop) = true :=
  fun _ hc => bne_iff_ne.2 fun heq => hname.notMem hstop hne (heq ▸ hc)

lemma declaredName_append {name : String} (hname : Unseparated name) (rest : List Char) :
    declaredName (name.toList ++ '(' :: rest) = name := by
  refine ofList_takeWhile (fun c hc => ?_) (by decide) rest
  rw [hname.bne (by decide) (by decide) c hc, hname.bne (by decide) (by decide) c hc]
  rfl

/-- What a line begins with that declares a function. -/
def functionHead (name : String) : List Char := "fn ".toList ++ (name.toList ++ ['('])

/-- What a line begins with that declares a public function of a flavour. -/
def publicHead (flavor : Flavor) (name : String) : List Char :=
  "pub ".toList ++ (flavor.qualifier.toList ++ functionHead name)

lemma afterWord?_functionHead {name : String} (hname : Unseparated name) (rest : List Char) :
    (afterWord? "fn " (functionHead name ++ rest)).map declaredName = some name := by
  rw [functionHead, List.append_assoc, afterWord?_append, Option.map_some, List.append_assoc,
    List.singleton_append, declaredName_append hname]

lemma function?_of_functionHead {l name : String} (hname : Unseparated name)
    (hl : functionHead name <+: l.toList) : function? l = some name := by
  obtain ⟨rest, hrest⟩ := hl
  have hpublic : afterWord? "pub " (functionHead name ++ rest) = none := rfl
  have hawaited : afterWord? "async " (functionHead name ++ rest) = none := rfl
  unfold function?
  dsimp only
  rw [← hrest, hpublic, Option.getD_none, hawaited, Option.getD_none, afterWord?_functionHead hname]

lemma function?_of_publicHead {l name : String} (flavor : Flavor) (hname : Unseparated name)
    (hl : publicHead flavor name <+: l.toList) : function? l = some name := by
  obtain ⟨rest, hrest⟩ := hl
  have hawaited : afterWord? "async " (functionHead name ++ rest) = none := rfl
  unfold function?
  dsimp only
  rw [← hrest, publicHead, List.append_assoc, afterWord?_append, Option.getD_some]
  cases flavor with
  | blocking =>
    rw [show Flavor.blocking.qualifier.toList = [] from rfl, List.nil_append, hawaited,
      Option.getD_none, afterWord?_functionHead hname]
  | asynchronous =>
    rw [show Flavor.asynchronous.qualifier = "async " from rfl, List.append_assoc,
      afterWord?_append, Option.getD_some, afterWord?_functionHead hname]

/-- The module that a line declares. -/
def module? (l : String) : Option String :=
  (afterWord? "mod " l.toList).map fun rest => String.ofList (rest.takeWhile (· != ';'))

lemma module?_of_declaration {l name : String} (hname : Unseparated name)
    (hl : l.toList = "mod ".toList ++ (name.toList ++ [';'])) : module? l = some name := by
  rw [module?, hl, afterWord?_append, Option.map_some,
    ofList_takeWhile (hname.bne (by decide) (by decide)) (by decide)]

namespace Lines

variable {ls ls' body : Lines} {l first last : String}

/-- The functions that begin in some lines, in order. -/
def functions (ls : Lines) : List String := ls.filterMap function?

/-- The lines one level deeper, as they stand in their block. -/
def nested (ls : Lines) : Lines :=
  ls.filterMap fun l => (afterWord? "    " l.toList).map String.ofList

/-- The functions one level deeper. -/
def methods (ls : Lines) : List String := functions (nested ls)

/-- The code between the braces of the structure that some lines declare. -/
def structureBody (ls : Lines) : Lines :=
  ((ls.dropWhile fun l => !"pub struct ".toList.isPrefixOf l.toList).drop 1).takeWhile (· != "\x7d")

/-- The modules that some lines declare, in order. -/
def modules (ls : Lines) : List String := ls.filterMap module?

/-- The field that a line declares. -/
def declaredField (l : String) : String := String.ofList (l.toList.takeWhile (· != ':'))

/-- The fields of the structure that some lines declare, in order. -/
def fields (ls : Lines) : List String := (nested (structureBody ls)).map declaredField

/-! ## Lines put together -/

@[simp] lemma functions_nil : functions [] = [] := rfl

@[simp] lemma functions_append : functions (ls ++ ls') = functions ls ++ functions ls' :=
  List.filterMap_append

lemma functions_cons : functions (l :: ls) = (function? l).toList ++ functions ls := by
  cases h : function? l with
  | none => rw [functions, List.filterMap_cons_none h]; rfl
  | some name => rw [functions, List.filterMap_cons_some h]; rfl

/-- Nothing of what is indented begins a function. -/
@[simp] lemma functions_indented : functions (indented ls) = [] := by
  rw [functions, List.filterMap_eq_nil_iff, indented, List.forall_mem_map]
  intro l _
  split
  · next h => rw [String.isEmpty_iff.1 h]; rfl
  · simp [function?, afterWord?, List.isPrefixOf?]

@[simp] lemma functions_group :
    functions (group first last body) = (function? first).toList ++ (function? last).toList := by
  rw [group, List.cons_append, functions_cons, functions_append, functions_indented, functions_cons]
  simp

lemma function?_brace : function? "\x7d" = none := rfl

@[simp] lemma functions_block {head : String} :
    functions (block head body) = (function? (head ++ " \x7b")).toList := by
  rw [block, functions_group, function?_brace, Option.toList_none, List.append_nil]

@[simp] lemma functions_apart : functions (apart ls) = functions ls := rfl

@[simp] lemma functions_onlyIf {condition : Bool} :
    functions (onlyIf condition ls) = if condition then functions ls else [] := by
  cases condition <;> rfl

/-- Comments declare nothing, whatever they say. -/
@[simp] lemma functions_commentLines {name desc : Option String} :
    functions (commentLines name desc) = [] := by
  rw [functions, List.filterMap_eq_nil_iff]
  intro l hl
  obtain ⟨rest, hrest, -⟩ := eq_of_mem_commentLines hl
  simp [function?, afterWord?, hrest, List.isPrefixOf?]

/-! ## Deeper lines -/

@[simp] lemma nested_append : nested (ls ++ ls') = nested ls ++ nested ls' := List.filterMap_append

lemma nested_cons_of_none (h : afterWord? "    " l.toList = none) : nested (l :: ls) = nested ls :=
  List.filterMap_cons_none (by rw [h]; rfl)

/-- What was indented is found again, besides empty lines. -/
lemma nested_indented : nested (indented ls) = ls.filter fun l => !l.isEmpty := by
  induction ls with
  | nil => rfl
  | cons l rest ih =>
    rw [indented, List.map_cons]
    cases hl : l.isEmpty with
    | true =>
      rw [if_pos rfl, String.isEmpty_iff.1 hl, nested_cons_of_none rfl]
      exact ih
    | false =>
      have hafter : afterWord? "    " ("    " ++ l).toList = some l.toList := by
        rw [String.toList_append, afterWord?_append]
      rw [if_neg Bool.false_ne_true, List.filter_cons_of_pos (by rw [hl]; rfl), nested,
        List.filterMap_cons_some (by rw [hafter]; rfl), String.ofList_toList, ← ih]
      rfl

@[simp] lemma methods_nil : methods [] = [] := rfl

@[simp] lemma methods_append : methods (ls ++ ls') = methods ls ++ methods ls' := by
  rw [methods, nested_append, functions_append]
  rfl

lemma methods_cons_of_none (h : afterWord? "    " l.toList = none) :
    methods (l :: ls) = methods ls := by
  rw [methods, nested_cons_of_none h]
  rfl

@[simp] lemma methods_indented : methods (indented ls) = functions ls := by
  rw [methods, nested_indented]
  induction ls with
  | nil => rfl
  | cons l rest ih =>
    cases hl : l.isEmpty with
    | true => rw [List.filter_cons_of_neg (by simp [hl]), ih, String.isEmpty_iff.1 hl]; rfl
    | false => rw [List.filter_cons_of_pos (by simp [hl]), functions_cons, functions_cons, ih]

@[simp] lemma methods_apart : methods (apart ls) = methods ls := rfl

/-- A block whose lines around are not indented. -/
lemma methods_block {head : String} (hhead : afterWord? "    " (head ++ " \x7b").toList = none) :
    methods (block head body) = functions body := by
  rw [block, group, List.cons_append, methods_cons_of_none hhead, methods_append, methods_indented,
    methods_cons_of_none rfl]
  exact List.append_nil _

@[simp] lemma methods_commentLines {name desc : Option String} :
    methods (commentLines name desc) = [] := by
  rw [methods, nested, List.filterMap_eq_nil_iff.2 fun l hl => ?_]
  · rfl
  · obtain ⟨rest, hrest, -⟩ := eq_of_mem_commentLines hl
    rw [Option.map_eq_none_iff, hrest]
    rfl

/-! ## Structures -/

/-- The line declares a field of this name, in which no separator occurs. -/
def IsField (l name : String) : Prop :=
  Unseparated name ∧ ∃ rest, l.toList = name.toList ++ ':' :: rest

lemma IsField.declaredField_eq {name : String} (h : IsField l name) : declaredField l = name := by
  obtain ⟨hname, rest, hl⟩ := h
  rw [declaredField, hl, ofList_takeWhile (hname.bne (by decide) (by decide)) (by decide)]

/-- A field does not begin with a word and a blank. -/
lemma IsField.afterWord?_eq {name : String} (h : IsField l name) (word : String)
    {letters : List Char} (hword : word.toList = letters ++ [' ']) (hcolon : ':' ∉ letters) :
    afterWord? word l.toList = none := by
  obtain ⟨hname, rest, hl⟩ := h
  rw [Option.eq_none_iff_forall_ne_some]
  intro after hafter
  have heq := List.isPrefixOf?_eq_some_iff_append_eq.1 hafter
  -- either the blank would be one of the name or the colon one of the letters
  rw [hl, hword, List.append_assoc] at heq
  rcases List.append_eq_append_iff.1 heq with ⟨between, hfront, hback⟩ | ⟨between, hfront, hback⟩
  · cases between with
    | nil => cases hback
    | cons c between =>
      have hc : ' ' = c := (List.cons.inj hback).1
      refine hname.notMem (by decide) (by decide) (?_ : ' ' ∈ name.toList)
      rw [hfront, hc]
      simp
  · cases between with
    | nil => cases hback
    | cons c between =>
      have hc : ':' = c := (List.cons.inj hback).1
      refine hcolon ?_
      rw [hfront, hc]
      simp

lemma IsField.function?_eq {name : String} (h : IsField l name) : function? l = none := by
  unfold function?
  dsimp only
  have hpublic : "pub ".toList = "pub".toList ++ [' '] := by decide
  have hawaited : "async ".toList = "async".toList ++ [' '] := by decide
  have hfunction : "fn ".toList = "fn".toList ++ [' '] := by decide
  rw [h.afterWord?_eq _ hpublic (by decide), Option.getD_none,
    h.afterWord?_eq _ hawaited (by decide), Option.getD_none,
    h.afterWord?_eq _ hfunction (by decide), Option.map_none]

lemma functions_of_isField {names : List String} (h : List.Forall₂ IsField ls names) :
    functions ls = [] := by
  induction h with
  | nil => rfl
  | cons hl _ ih => rw [functions_cons, hl.function?_eq, ih]; rfl

/-- The fields of a structure are those that its braces hold. -/
lemma fields_structure {before after : Lines} {head : String} {names : List String}
    (hbefore : ∀ l ∈ before, "pub struct ".toList.isPrefixOf l.toList = false)
    (hhead : "pub struct ".toList.isPrefixOf (head ++ " \x7b").toList = true)
    (hbody : List.Forall₂ IsField body names) :
    fields (before ++ block head body ++ after) = names := by
  have hbraces : structureBody (before ++ block head body ++ after) = indented body := by
    unfold structureBody
    rw [List.append_assoc, List.dropWhile_append_of_pos fun l hl => by rw [hbefore l hl]; rfl,
      block, group, List.cons_append, List.cons_append,
      List.dropWhile_cons_of_neg (by rw [hhead]; decide), List.drop_one, List.tail_cons,
      List.append_assoc, List.takeWhile_append_of_pos fun l hl => ?_]
    · simp
    · obtain ⟨deeper, -, rfl⟩ := List.mem_map.1 hl
      rw [bne_iff_ne]
      split
      · next h => rw [String.isEmpty_iff.1 h]; decide
      · exact fun h => absurd (congrArg String.toList h) (by simp)
  rw [fields, hbraces, nested_indented]
  clear hbraces
  induction hbody with
  | nil => rfl
  | cons hl _ ih =>
    have hfull := hl
    obtain ⟨-, rest, hrest⟩ := hl
    rw [List.filter_cons_of_pos ?_, List.map_cons, hfull.declaredField_eq, ih]
    rw [Bool.not_eq_true', ← Bool.not_eq_true, String.isEmpty_iff]
    rintro rfl
    exact absurd hrest (by simp)

end Lines

end RegisterMap
