import SqlGateway.CommandLine.Invocation
import SqlGateway.Proofs.Text.Parts

/-!
# How arguments spell what a level says

The arguments of a level say *items*: settings with their values, switches, and operands.
`Spells` is the grammar by which they do.

* A setting is spelled by its name behind two hyphens.  Its value is the next argument, unless
  that looks like a setting or a switch, or follows an equals sign in the same one.
* A switch is spelled by its name behind two hyphens, or by its letter.  Letters stand in one
  argument behind one hyphen.
* Any other argument is an operand, on a level that has one.

Two hyphens alone are no part of the grammar.  Arguments spell one list of items at most
(`Spells.unique`), and a command line has one place where its command is named
(`Spells.unique_command`).
-/

namespace SqlGateway.CommandLine

/-! ## Items -/

/-- One thing that the arguments of a level say. -/
inductive Item where
  /-- A setting has a value. -/
  | setting (s : Setting) (value : String)
  /-- A switch is turned on. -/
  | switch (o : Switch)
  /-- Neither a setting nor a switch. -/
  | operand (text : String)
deriving DecidableEq

/-- An argument that looks neither like a setting nor like a switch.  A hyphen alone does not. -/
def IsPlain (text : String) : Prop := ∀ c cs, text.toList ≠ '-' :: c :: cs

/-- Letters, and the switches they are for. -/
def Level.Letters (l : Level) (cs : List Char) (os : List Switch) : Prop :=
  os.map Switch.letter? = cs.map some ∧ ∀ o ∈ os, l.takesSwitch o = true

/-- An argument that says items by itself. -/
inductive Whole (l : Level) : String → List Item → Prop where
  | setting {s : Setting} (text : String) (takes : l.takes s = true) :
      Whole l ("--" ++ s.name ++ "=" ++ text) [.setting s text]
  | switch {o : Switch} (takes : l.takesSwitch o = true) : Whole l ("--" ++ o.name) [.switch o]
  | letters {c : Char} {cs : List Char} {os : List Switch} (letters : l.Letters (c :: cs) os) :
      Whole l (.ofList ('-' :: c :: cs)) (os.map .switch)
  | operand {text : String} (has : l.hasOperand = true) (plain : IsPlain text) :
      Whole l text [.operand text]

/-- Arguments that say items.  If a setting waits for its value, that is the first of them. -/
inductive Spells (l : Level) : Option Setting → List String → List Item → Prop where
  | nil : Spells l none [] []
  | whole {a : String} {more : List String} {items rest : List Item} (whole : Whole l a items)
      (spells : Spells l none more rest) : Spells l none (a :: more) (items ++ rest)
  | apart {s : Setting} {more : List String} {items : List Item} (takes : l.takes s = true)
      (spells : Spells l (some s) more items) : Spells l none (("--" ++ s.name) :: more) items
  | value {s : Setting} {a : String} {more : List String} {items : List Item} (plain : IsPlain a)
      (spells : Spells l none more items) : Spells l (some s) (a :: more) (.setting s a :: items)

variable {l : Level} {w : Option Setting} {a : String} {items : List Item}

/-! ## Names -/

theorem Setting.name_chars (s : Setting) : s.name.toList ≠ [] ∧ '=' ∉ s.name.toList := by
  cases s <;> decide

theorem Switch.name_chars (o : Switch) : o.name.toList ≠ [] ∧ '=' ∉ o.name.toList := by
  cases o <;> decide

theorem Setting.name_injective {s t : Setting} (same : s.name = t.name) : s = t := by
  cases s <;> cases t <;> first | rfl | exact absurd same (by decide)

theorem Switch.name_injective {o p : Switch} (same : o.name = p.name) : o = p := by
  cases o <;> cases p <;> first | rfl | exact absurd same (by decide)

theorem Switch.letter_injective {o p : Switch} {c : Char} (left : o.letter? = some c)
    (right : p.letter? = some c) : o = p := by
  have same : o.letter? = p.letter? := left.trans right.symm
  cases o <;> cases p <;> first | rfl | exact absurd same (by decide)

theorem Setting.name_ne (s : Setting) (o : Switch) : s.name ≠ o.name := by
  cases s <;> cases o <;> decide

theorem Level.setting?_eq_some_iff {s : Setting} {name : String} :
    l.setting? name = some s ↔ s.name = name ∧ l.takes s = true := by
  constructor
  · intro found
    simpa using List.find?_some found
  · rintro ⟨rfl, takes⟩
    cases s <;> simp [Level.setting?, Setting.all, Setting.name, takes]

theorem Level.setting?_switch_name (o : Switch) : l.setting? o.name = none := by
  cases found : l.setting? o.name with
  | none => rfl
  | some s => exact absurd (Level.setting?_eq_some_iff.mp found).1 (s.name_ne o)

theorem Level.switch?_eq_some_iff {o : Switch} {name : String} :
    l.switch? name = some o ↔ o.name = name ∧ l.takesSwitch o = true := by
  constructor
  · intro found
    simpa using List.find?_some found
  · rintro ⟨rfl, takes⟩
    cases o <;> simp [Level.switch?, Switch.all, Switch.name, takes]

theorem Level.switchOf?_eq_some_iff {o : Switch} {c : Char} :
    l.switchOf? c = some o ↔ o.letter? = some c ∧ l.takesSwitch o = true := by
  constructor
  · intro found
    simpa using List.find?_some found
  · rintro ⟨letter, takes⟩
    cases o with
    | promptSecret => cases letter
    | verbose | quiet | help | version =>
        cases letter
        simp [Level.switchOf?, Switch.all, Switch.letter?, takes]

theorem Verb.ofName?_eq_some_iff {v : Verb} {name : String} :
    Verb.ofName? name = some v ↔ v.name = name := by
  constructor
  · intro found
    simpa using List.find?_some found
  · rintro rfl
    cases v <;> decide

theorem Verb.name_injective {v u : Verb} (same : v.name = u.name) : v = u := by
  have found := Verb.ofName?_eq_some_iff.mpr same
  rw [Verb.ofName?_eq_some_iff.mpr rfl] at found
  exact (Option.some.inj found).symm

/-! ## Words -/

namespace Word

/-- A name ends at an equals sign, or with its argument. -/
theorem ofArgument_of_chars {name more : List Char} (free : '=' ∉ name)
    (halts : Halts (· ≠ '=') more) (ne : name ≠ [])
    (spelled : a.toList = '-' :: '-' :: (name ++ more)) :
    ofArgument a = .long (.ofList name) (more.tail?.map .ofList) := by
  have keep : ∀ c ∈ name, (decide (c ≠ '=')) = true := by
    intro c mem
    rw [decide_eq_true_eq]
    rintro rfl
    exact free mem
  obtain ⟨c, cs, eq⟩ := List.exists_cons_of_ne_nil (l := name ++ more) (by simp [ne])
  rw [ofArgument, spelled, eq]
  simp only
  rw [← eq, takeWhile_of_halts keep halts, dropWhile_of_halts keep halts]
  cases more <;> rfl

theorem ofArgument_named {name : String} (chars : name.toList ≠ [] ∧ '=' ∉ name.toList) :
    ofArgument ("--" ++ name) = .long name none := by
  rw [ofArgument_of_chars chars.2 (.nil _) chars.1 (by simp), String.ofList_toList]
  rfl

theorem ofArgument_valued {name : String} (chars : name.toList ≠ [] ∧ '=' ∉ name.toList)
    (text : String) : ofArgument ("--" ++ name ++ "=" ++ text) = .long name (some text) := by
  have halts : Halts (· ≠ '=') ('=' :: text.toList) := .cons (by decide)
  rw [ofArgument_of_chars chars.2 halts chars.1 (by simp), String.ofList_toList,
    List.tail?_cons, Option.map_some, String.ofList_toList]

theorem ofArgument_setting (s : Setting) : ofArgument ("--" ++ s.name) = .long s.name none :=
  ofArgument_named s.name_chars

theorem ofArgument_switch (o : Switch) : ofArgument ("--" ++ o.name) = .long o.name none :=
  ofArgument_named o.name_chars

theorem ofArgument_plain (plain : IsPlain a) : ofArgument a = .plain a := by
  rw [ofArgument]
  split
  next eq => exact absurd eq (plain _ _)
  next eq => exact absurd eq (plain _ _)
  next eq => exact absurd eq (plain _ _)
  next => rfl

theorem ofArgument_letters {c : Char} {cs : List Char} (ne : c ≠ '-') :
    ofArgument (.ofList ('-' :: c :: cs)) = .short (c :: cs) := by
  rw [ofArgument, String.toList_ofList]
  split
  next eq => simp_all
  next eq => simp_all
  next eq => simp_all
  next no => exact absurd rfl (no _ _)

/-- The arguments that look like a word. -/
inductive Looks : String → Word → Prop where
  | escape : Looks "--" .escape
  | named (name : String) : Looks ("--" ++ name) (.long name none)
  | valued (name text : String) : Looks ("--" ++ name ++ "=" ++ text) (.long name (some text))
  | letters (c : Char) (cs : List Char) : Looks (.ofList ('-' :: c :: cs)) (.short (c :: cs))
  | plain {a : String} (plain : IsPlain a) : Looks a (.plain a)

theorem looks (a : String) : Looks a (ofArgument a) := by
  rw [ofArgument]
  split
  next eq =>
    have same : a = "--" := String.toList_injective eq
    rw [same]
    exact .escape
  next cs _ eq =>
    have split := List.takeWhile_append_dropWhile (p := (· ≠ '=')) (l := cs)
    generalize cs.takeWhile (· ≠ '=') = name at split
    cases behind : cs.dropWhile (· ≠ '=') with
    | nil =>
        rw [behind, List.append_nil] at split
        have same : a = "--" ++ .ofList name := by
          apply String.toList_injective
          rw [eq, ← split]
          simp
        rw [same]
        exact .named _
    | cons d text =>
        have mark : d = '=' := by
          have ne : cs.dropWhile (· ≠ '=') ≠ [] := by simp only [behind, ne_eq, reduceCtorEq,
            not_false_eq_true]
          have head := List.head_dropWhile_not (· ≠ '=') ne
          simpa only [behind, List.head_cons, decide_eq_false_iff_not, Decidable.not_not] using head
        rw [behind, mark] at split
        have same : a = "--" ++ .ofList name ++ "=" ++ .ofList text := by
          apply String.toList_injective
          rw [eq, ← split]
          simp
        rw [same]
        exact .valued _ _
  next c cs _ _ eq =>
    have same : a = .ofList ('-' :: c :: cs) := by
      apply String.toList_injective
      rw [eq, String.toList_ofList]
    rw [same]
    exact .letters c cs
  next no => exact .plain fun c cs eq => no c cs eq

end Word

/-! ## One reading -/

theorem Level.letters_nil_iff {os : List Switch} : l.Letters [] os ↔ os = [] := by
  constructor
  · rintro ⟨none, -⟩
    exact List.map_eq_nil_iff.mp none
  · rintro rfl
    exact ⟨rfl, nofun⟩

theorem Level.letters_cons_iff {c : Char} {cs : List Char} {os : List Switch} :
    l.Letters (c :: cs) os ↔ ∃ o ps, os = o :: ps ∧ o.letter? = some c ∧
      l.takesSwitch o = true ∧ l.Letters cs ps := by
  constructor
  · rintro ⟨named, taken⟩
    cases os with
    | nil => cases named
    | cons o ps =>
        obtain ⟨letter, named⟩ := List.cons.inj named
        obtain ⟨takes, taken⟩ := List.forall_mem_cons.mp taken
        exact ⟨o, ps, rfl, letter, takes, named, taken⟩
  · rintro ⟨o, ps, rfl, letter, takes, named, taken⟩
    refine ⟨?_, List.forall_mem_cons.mpr ⟨takes, taken⟩⟩
    rw [List.map_cons, List.map_cons, letter, named]

theorem Level.Letters.ne_hyphen {c : Char} {cs : List Char} {os : List Switch}
    (letters : l.Letters (c :: cs) os) : c ≠ '-' := by
  obtain ⟨o, ps, -, letter, -⟩ := Level.letters_cons_iff.mp letters
  rintro rfl
  cases o <;> simp [Switch.letter?] at letter

theorem Level.Letters.unique {cs : List Char} {os ps : List Switch} (left : l.Letters cs os)
    (right : l.Letters cs ps) : os = ps := by
  induction cs generalizing os ps with
  | nil => rw [Level.letters_nil_iff.mp left, Level.letters_nil_iff.mp right]
  | cons c cs ih =>
      obtain ⟨o, os, rfl, letter, -, left⟩ := Level.letters_cons_iff.mp left
      obtain ⟨p, ps, rfl, letter', -, right⟩ := Level.letters_cons_iff.mp right
      rw [Switch.letter_injective letter letter', ih left right]

/-- The words of the arguments that say items by themselves. -/
theorem Whole.word (whole : Whole l a items) :
    (∃ s text, Word.ofArgument a = .long s.name (some text) ∧ items = [.setting s text]) ∨
    (∃ o : Switch, Word.ofArgument a = .long o.name none ∧ items = [.switch o]) ∨
    (∃ cs os, Word.ofArgument a = .short cs ∧ l.Letters cs os ∧ items = os.map .switch) ∨
    (l.hasOperand = true ∧ Word.ofArgument a = .plain a ∧ items = [.operand a]) := by
  cases whole with
  | @setting s text _ => exact .inl ⟨s, text, Word.ofArgument_valued s.name_chars text, rfl⟩
  | switch _ => exact .inr (.inl ⟨_, Word.ofArgument_switch _, rfl⟩)
  | letters letters =>
      exact .inr (.inr (.inl ⟨_, _, Word.ofArgument_letters letters.ne_hyphen, letters, rfl⟩))
  | operand has plain => exact .inr (.inr (.inr ⟨has, Word.ofArgument_plain plain, rfl⟩))

theorem Whole.unique {others : List Item} (left : Whole l a items) (right : Whole l a others) :
    items = others := by
  rcases left.word with ⟨s, text, word, rfl⟩ | ⟨o, word, rfl⟩ | ⟨cs, os, word, letters, rfl⟩ |
      ⟨-, word, rfl⟩ <;>
    rcases right.word with ⟨t, text', word', rfl⟩ | ⟨p, word', rfl⟩ |
      ⟨ds, ps, word', letters', rfl⟩ | ⟨-, word', rfl⟩ <;>
    have same := word.symm.trans word' <;>
    simp only [Word.long.injEq, Word.short.injEq, Option.some.injEq, reduceCtorEq, and_false,
      and_true] at same
  · rw [Setting.name_injective same.1, same.2]
  · rw [Switch.name_injective same]
  · subst same
    rw [letters.unique letters']
  · rfl

/-- The name of a setting says nothing without a value. -/
theorem Whole.not_setting {s : Setting} : ¬ Whole l ("--" ++ s.name) items := by
  intro whole
  have named := Word.ofArgument_setting s
  rcases whole.word with ⟨t, text, word, -⟩ | ⟨o, word, -⟩ | ⟨cs, os, word, -⟩ | ⟨-, word, -⟩ <;>
    rw [named] at word <;> simp only [Word.long.injEq, reduceCtorEq, and_false, and_true] at word
  exact s.name_ne o word

theorem Setting.eq_of_named {s t : Setting} (same : "--" ++ s.name = "--" ++ t.name) : s = t := by
  have word := Word.ofArgument_setting s
  rw [same, Word.ofArgument_setting, Word.long.injEq] at word
  exact (Setting.name_injective word.1).symm

theorem Spells.cons_inv {more : List String} (spells : Spells l none (a :: more) items) :
    (∃ here rest, Whole l a here ∧ Spells l none more rest ∧ items = here ++ rest) ∨
      ∃ s, a = "--" ++ s.name ∧ Spells l (some s) more items := by
  generalize eq : a :: more = arguments at spells
  cases spells with
  | nil => cases eq
  | whole whole spells =>
      cases eq
      exact .inl ⟨_, _, whole, spells, rfl⟩
  | apart takes spells =>
      cases eq
      exact .inr ⟨_, rfl, spells⟩

/-- Arguments spell one list of items at most. -/
theorem Spells.unique {arguments : List String} {others : List Item}
    (left : Spells l w arguments items) (right : Spells l w arguments others) :
    items = others := by
  induction left generalizing others with
  | nil =>
      cases right
      rfl
  | whole whole spells ih =>
      rcases right.cons_inv with ⟨here, rest, whole', spells', rfl⟩ | ⟨s, rfl, spells'⟩
      · rw [whole.unique whole', ih spells']
      · exact absurd whole Whole.not_setting
  | apart takes spells ih =>
      rcases right.cons_inv with ⟨here, rest, whole', spells', rfl⟩ | ⟨s, same, spells'⟩
      · exact absurd whole' Whole.not_setting
      · obtain rfl := Setting.eq_of_named same
        exact ih spells'
  | value plain spells ih =>
      cases right with
      | value _ spells' => rw [ih spells']

/-! ## One command -/

theorem Verb.ofArgument_name (v : Verb) : Word.ofArgument v.name = .plain v.name := by
  cases v <;> decide

theorem Verb.not_whole (v : Verb) : ¬ Whole .upper v.name items := by
  intro whole
  have plain := v.ofArgument_name
  rcases whole.word with ⟨t, text, word, -⟩ | ⟨o, word, -⟩ | ⟨cs, os, word, -⟩ | ⟨has, -⟩
  · cases plain.symm.trans word
  · cases plain.symm.trans word
  · cases plain.symm.trans word
  · cases has

theorem Verb.name_ne_setting (v : Verb) (s : Setting) : v.name ≠ "--" ++ s.name := by
  intro same
  have plain := v.ofArgument_name
  rw [same, Word.ofArgument_setting] at plain
  cases plain

/-- The name of a command is none of the arguments before it. -/
theorem Spells.not_command {v : Verb} {more : List String} :
    ¬ Spells .upper none (v.name :: more) items := by
  intro spells
  rcases spells.cons_inv with ⟨here, rest, whole, -⟩ | ⟨s, same, -⟩
  · exact v.not_whole whole
  · exact v.name_ne_setting s same

/-- A command line has one place where its command is named. -/
theorem Spells.unique_command {before before' behind behind' : List String} {others : List Item}
    {v v' : Verb} (left : Spells .upper w before items) (right : Spells .upper w before' others)
    (same : before ++ v.name :: behind = before' ++ v'.name :: behind') :
    before = before' ∧ v = v' ∧ behind = behind' := by
  -- Both are followed argument by argument.  Where one of them ends, the other would have to
  -- spell the name of a command.
  induction left generalizing before' others with
  | nil =>
      cases before' with
      | nil =>
          obtain ⟨name, rfl⟩ := List.cons.inj same
          exact ⟨rfl, Verb.name_injective name, rfl⟩
      | cons a' more' =>
          obtain ⟨rfl, -⟩ := List.cons.inj same
          exact absurd right Spells.not_command
  | whole whole spells ih =>
      cases before' with
      | nil =>
          obtain ⟨rfl, -⟩ := List.cons.inj same
          exact absurd whole (Verb.not_whole _)
      | cons a' more' =>
          obtain ⟨rfl, later⟩ := List.cons.inj same
          rcases right.cons_inv with ⟨here, rest, -, spells', -⟩ | ⟨s, rfl, -⟩
          · obtain ⟨rfl, there⟩ := ih spells' later
            exact ⟨rfl, there⟩
          · exact absurd whole Whole.not_setting
  | @apart s more items takes spells ih =>
      cases before' with
      | nil => exact absurd (List.cons.inj same).1.symm (Verb.name_ne_setting _ s)
      | cons a' more' =>
          obtain ⟨rfl, later⟩ := List.cons.inj same
          rcases right.cons_inv with ⟨here, rest, whole', -⟩ | ⟨t, named, spells'⟩
          · exact absurd whole' Whole.not_setting
          · obtain rfl := Setting.eq_of_named named
            obtain ⟨rfl, there⟩ := ih spells' later
            exact ⟨rfl, there⟩
  | value plain spells ih =>
      cases right with
      | value _ spells' =>
          obtain ⟨rfl, later⟩ := List.cons.inj same
          obtain ⟨rfl, there⟩ := ih spells' later
          exact ⟨rfl, there⟩

end SqlGateway.CommandLine
