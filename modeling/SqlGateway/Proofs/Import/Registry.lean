import Mathlib.Data.List.Nodup
import SqlGateway.Import.Registry
import SqlGateway.Proofs.Text.Order

/-!
# What a registry holds and to whom it hands imports

A registry is made of a list of plugins exactly if no two of them have one name.  Its names are
those of the list, in the order of their bytes.  Of another list none is made, and the fault
names the first plugin that has the name of an earlier one (`ofList_decided`).

The registry is the map of names to plugins that the list says.  An import goes to the plugin of
the name and comes back as the plugin answers it.  Where no plugin has the name, none is asked.
The order of the list does not matter (`dispatch_as_listed`).

Putting a plugin in its place adds it to the others and fails exactly if its name is taken
(`perm_of_insert?`, `insert?_eq_none_iff`).  From this step, by induction on the plugins still
to come, the registry after a part of the list holds that part, and the first name that is taken
ends the run (`insertAll_eq_ok_iff`, `insertAll_eq_error_iff`).
-/

namespace SqlGateway.Import

variable {p q : Plugin} {ps qs : List Plugin} {name : String} {r r' : Registry} {f : Fault}

/-! ## One plugin -/

/-- A plugin in its place is one more plugin. -/
theorem perm_of_insert? (placed : insert? p ps = some qs) : qs.Perm (p :: ps) := by
  induction ps generalizing qs with
  | nil =>
      cases placed
      exact .refl _
  | cons r ps ih =>
      rw [insert?] at placed
      split at placed
      · cases placed
        exact .refl _
      · split at placed
        · cases placed
        · obtain ⟨rs, behind, rfl⟩ := Option.map_eq_some_iff.mp placed
          exact ((ih behind).cons r).trans (.swap p r ps)

/-- A plugin finds no place exactly if its name is taken. -/
theorem insert?_eq_none_iff (sorted : ps.Pairwise Plugin.Before) :
    insert? p ps = none ↔ p.name ∈ ps.map Plugin.name := by
  induction ps with
  | nil => simp [insert?]
  | cons r ps ih =>
      obtain ⟨before, sorted⟩ := List.pairwise_cons.mp sorted
      rw [insert?, List.map_cons, List.mem_cons]
      split
      next first =>
        -- All names of the list are behind that of the plugin.
        have later : p.name ∉ ps.map Plugin.name := by
          intro taken
          obtain ⟨s, mem, same⟩ := List.mem_map.mp taken
          have behind : p.name < s.name := String.lt_trans first (before s mem)
          exact ne_of_lt behind same.symm
        simp [later, ne_of_lt first]
      next =>
        split
        next same => simp [same]
        next other => rw [Option.map_eq_none_iff, ih sorted, or_iff_right other]

/-- In a list without repeated names a plugin is found by its name. -/
theorem find?_eq_some_iff (distinct : (ps.map Plugin.name).Nodup) :
    find? name ps = some p ↔ p ∈ ps ∧ p.name = name := by
  induction ps with
  | nil => simp [find?]
  | cons q ps ih =>
      obtain ⟨fresh, distinct⟩ := List.nodup_cons.mp distinct
      rw [find?, List.mem_cons]
      split
      next here =>
        have later : p ∈ ps → p.name ≠ name := by
          rintro mem rfl
          exact fresh (here ▸ List.mem_map_of_mem mem)
        constructor
        · rintro ⟨⟩
          exact ⟨.inl rfl, here⟩
        · rintro ⟨rfl | mem, named⟩
          · rfl
          · exact absurd named (later mem)
      next other =>
        rw [ih distinct]
        refine and_congr_left fun named => ⟨.inr, ?_⟩
        rintro (rfl | mem)
        · exact absurd named other
        · exact mem

theorem find?_eq_none_iff : find? name ps = none ↔ name ∉ ps.map Plugin.name := by
  induction ps with
  | nil => simp [find?]
  | cons q ps ih =>
      rw [find?, List.map_cons, List.mem_cons]
      split
      next here => simp [here]
      next other => rw [ih, or_iff_right (Ne.symm other)]

/-! ## Lists of plugins -/

/-- A plugin is the first of a list that has the name of an earlier one. -/
def FirstRepeated (ps : List Plugin) (p : Plugin) : Prop :=
  ∃ front rest, ps = front ++ p :: rest ∧ (front.map Plugin.name).Nodup ∧
    p.name ∈ front.map Plugin.name

theorem FirstRepeated.not_nodup (repeated : FirstRepeated ps p) : ¬ (ps.map Plugin.name).Nodup := by
  obtain ⟨front, rest, rfl, -, earlier⟩ := repeated
  rw [List.map_append]
  intro distinct
  exact List.disjoint_of_nodup_append distinct earlier List.mem_cons_self

/-- A plugin that first tells each of its runs. -/
def Plugin.telling (tell : Plugin → Json → Json → List Event) (p : Plugin) : Plugin where
  name := p.name
  run source destination := (p.run source destination).after (tell p source destination)

/-! ## Registries -/

namespace Registry

/-- A registry has no name twice. -/
theorem nodup_names (r : Registry) : r.names.Nodup :=
  List.pairwise_map.mpr (r.sorted.imp fun before => ne_of_lt before)

/-- A registry is known from its plugins, in whatever order. -/
theorem eq_of_perm (perm : r.plugins.Perm r'.plugins) : r = r' := by
  have same : r.plugins = r'.plugins := by
    refine perm.eq_of_pairwise (fun p q _ _ before after => ?_) r.sorted r'.sorted
    exact absurd after (String.lt_asymm before)
  cases r
  cases r'
  congr

theorem insert?_plugins (r : Registry) (p : Plugin) :
    (r.insert? p).map plugins = Import.insert? p r.plugins := by
  rw [insert?]
  split <;> simp [*]

/-- A plugin is added exactly if its name is not taken. -/
theorem insert?_eq_none_iff : r.insert? p = none ↔ p.name ∈ r.names := by
  rw [names, ← Import.insert?_eq_none_iff r.sorted, ← insert?_plugins, Option.map_eq_none_iff]

/-- A registry with one more plugin. -/
theorem perm_of_insert? (added : r.insert? p = some r') : r'.plugins.Perm (p :: r.plugins) := by
  refine Import.perm_of_insert? ?_
  rw [← insert?_plugins, added, Option.map_some]

/-! ### Many plugins -/

/-- The names after one more plugin, and names still to come. -/
theorem names_append_perm (added : r.insert? p = some r') (ns : List String) :
    (r'.names ++ ns).Perm (r.names ++ p.name :: ns) :=
  (((perm_of_insert? added).map Plugin.name).append_right ns).trans List.perm_middle.symm

/-- A run of plugins is taken exactly if all names are different, and then nothing but these
plugins is added. -/
theorem insertAll_eq_ok_iff : r.insertAll ps = .ok r' ↔
    (r.names ++ ps.map Plugin.name).Nodup ∧ r'.plugins.Perm (r.plugins ++ ps) := by
  induction ps generalizing r with
  | nil =>
      rw [insertAll, List.map_nil, List.append_nil, List.append_nil, and_iff_right r.nodup_names]
      refine ⟨?_, fun perm => congrArg _ (eq_of_perm perm.symm)⟩
      rintro ⟨⟩
      exact .refl _
  | cons p ps ih =>
      rw [insertAll, List.map_cons]
      cases added : r.insert? p with
      | none =>
          have taken := insert?_eq_none_iff.mp added
          refine iff_of_false nofun fun ⟨distinct, _⟩ => ?_
          exact List.disjoint_of_nodup_append distinct taken List.mem_cons_self
      | some s =>
          have all : (s.plugins ++ ps).Perm (r.plugins ++ p :: ps) :=
            ((perm_of_insert? added).append_right ps).trans List.perm_middle.symm
          change s.insertAll ps = .ok r' ↔ _
          rw [ih, (names_append_perm added _).nodup_iff]
          exact and_congr_right fun _ => ⟨fun h => h.trans all, fun h => h.trans all.symm⟩

/-- A run of plugins ends at the first one whose name is taken. -/
theorem insertAll_eq_error_iff : r.insertAll ps = .error f ↔
    ∃ front p rest, ps = front ++ p :: rest ∧ (r.names ++ front.map Plugin.name).Nodup ∧
      p.name ∈ r.names ++ front.map Plugin.name ∧ f = .duplicatePlugin p.name := by
  induction ps generalizing r with
  | nil => simp [insertAll]
  | cons p ps ih =>
      rw [insertAll]
      cases added : r.insert? p with
      | none =>
          have taken := insert?_eq_none_iff.mp added
          constructor
          · rintro ⟨⟩
            refine ⟨[], p, ps, rfl, ?_, ?_, rfl⟩
            · rw [List.map_nil, List.append_nil]
              exact r.nodup_names
            · rwa [List.map_nil, List.append_nil]
          · rintro ⟨front, q, rest, parts, distinct, -, rfl⟩
            cases front with
            | nil =>
                cases parts
                rfl
            | cons _ front =>
                cases parts
                exact absurd List.mem_cons_self (List.disjoint_of_nodup_append distinct taken)
      | some s =>
          have fresh : p.name ∉ r.names := by
            rw [← insert?_eq_none_iff, added]
            exact Option.some_ne_none s
          change s.insertAll ps = .error f ↔ _
          rw [ih]
          constructor
          · rintro ⟨front, q, rest, rfl, distinct, taken, rfl⟩
            have names := names_append_perm added (front.map Plugin.name)
            exact ⟨p :: front, q, rest, rfl, names.nodup_iff.mp distinct,
              names.mem_iff.mp taken, rfl⟩
          · rintro ⟨front, q, rest, parts, distinct, taken, rfl⟩
            cases front with
            | nil =>
                cases parts
                rw [List.map_nil, List.append_nil] at taken
                exact absurd taken fresh
            | cons _ front =>
                cases parts
                have names := names_append_perm added (front.map Plugin.name)
                exact ⟨front, q, rest, rfl, names.nodup_iff.mpr distinct,
                  names.mem_iff.mpr taken, rfl⟩

/-! ### Lists -/

theorem ofList_value (ps : List Plugin) : (ofList ps).value = insertAll empty ps := by
  rw [ofList]
  cases insertAll empty ps <;> rfl

/-- A registry of a list holds the plugins of the list. -/
theorem ofList_eq_ok_iff : (ofList ps).value = .ok r ↔
    (ps.map Plugin.name).Nodup ∧ r.plugins.Perm ps := by
  rw [ofList_value, insertAll_eq_ok_iff]
  rfl

theorem ofList_eq_error_iff : (ofList ps).value = .error f ↔
    ∃ p, FirstRepeated ps p ∧ f = .duplicatePlugin p.name := by
  rw [ofList_value, insertAll_eq_error_iff]
  constructor
  · rintro ⟨front, p, rest, parts, distinct, taken, told⟩
    exact ⟨p, ⟨front, rest, parts, distinct, taken⟩, told⟩
  · rintro ⟨p, ⟨front, rest, parts, distinct, taken⟩, told⟩
    exact ⟨front, p, rest, parts, distinct, taken, told⟩

/-- There is a registry of every list without repeated names. -/
theorem exists_ofList_iff : (∃ r, (ofList ps).value = .ok r) ↔ (ps.map Plugin.name).Nodup := by
  refine ⟨fun ⟨r, made⟩ => (ofList_eq_ok_iff.mp made).1, fun distinct => ?_⟩
  cases made : (ofList ps).value with
  | ok r => exact ⟨r, rfl⟩
  | error f =>
      obtain ⟨p, repeated, -⟩ := ofList_eq_error_iff.mp made
      exact absurd distinct repeated.not_nodup

/-- The names of a registry are in the order of their bytes. -/
theorem encode_names_increasing (r : Registry) :
    (r.names.map Utf8.encode).Pairwise (· < ·) := by
  rw [names, List.map_map, List.pairwise_map]
  exact r.sorted.imp fun before => Utf8.encode_lt before

/-- A registry is made of a list exactly if no name repeats.  Then its names are those of the list,
in strictly increasing order of their bytes.  Otherwise the fault names the first plugin that has
the name of an earlier one, whatever follows it. -/
theorem ofList_decided (ps : List Plugin) :
    ((∃ r, (ofList ps).value = .ok r) ↔ (ps.map Plugin.name).Nodup) ∧
      (∀ r, (ofList ps).value = .ok r →
        (r.names.map Utf8.encode).Pairwise (· < ·) ∧ r.names.Perm (ps.map Plugin.name)) ∧
      ∀ f, (ofList ps).value = .error f ↔
        ∃ p, FirstRepeated ps p ∧ f = .duplicatePlugin p.name := by
  refine ⟨exists_ofList_iff, fun r made => ?_, fun f => ofList_eq_error_iff⟩
  exact ⟨r.encode_names_increasing, (ofList_eq_ok_iff.mp made).2.map Plugin.name⟩

/-- A plugin that answers with what it is given. -/
def echo (name : String) : Plugin where
  name := name
  run source destination := ⟨.ok (.array [source, destination]), []⟩

/-- Of three plugins with three names there is a registry.  Where two names repeat, the first plugin
with an earlier name is told of. -/
theorem ofList_echoes :
    (∃ r, (ofList [echo "ä", echo "z", echo "Z"]).value = .ok r ∧
      (r.names.map Utf8.encode).Pairwise (· < ·) ∧ r.names.Perm ["ä", "z", "Z"]) ∧
      (ofList [echo "b", echo "a", echo "a", echo "b"]).value = .error (.duplicatePlugin "a") := by
  obtain ⟨made, holds, -⟩ := ofList_decided [echo "ä", echo "z", echo "Z"]
  obtain ⟨r, registry⟩ := made.mpr (by decide)
  refine ⟨⟨r, registry, holds r registry⟩, ?_⟩
  refine ((ofList_decided _).2.2 _).mpr ⟨echo "a", ⟨[echo "b", echo "a"], [echo "b"], rfl, ?_⟩, rfl⟩
  decide

/-! ### Imports -/

/-- What is told when an import is handed to a plugin. -/
def handedTo (name : String) : Event :=
  ⟨.debug, .registry, s!"Dispatching import to plugin '{name}'", []⟩

/-- A registry is the map of names to plugins that a list says, and does no more with imports than
to hand them on. -/
structure Serves (r : Registry) (ps : List Plugin) : Prop where
  /-- A plugin is found by its name, and nothing else is found. -/
  finds : ∀ name p, r.find? name = some p ↔ p ∈ ps ∧ p.name = name
  /-- The plugin of the name alone makes the answer, which is not changed. -/
  hands : ∀ p ∈ ps, ∀ source destination,
    r.dispatch p.name source destination =
      .ok ((p.run source destination).after [handedTo p.name])
  /-- Without a plugin of the name nothing is run. -/
  refuses : ∀ name, name ∉ ps.map Plugin.name → ∀ source destination,
    r.dispatch name source destination = .error (.pluginNotFound name)

theorem serves (r : Registry) : r.Serves r.plugins := by
  have finds (name : String) (p : Plugin) :
      r.find? name = some p ↔ p ∈ r.plugins ∧ p.name = name :=
    find?_eq_some_iff r.nodup_names
  refine ⟨finds, fun p mem source destination => ?_, fun name unknown source destination => ?_⟩
  · rw [dispatch, (finds p.name p).mpr ⟨mem, rfl⟩]
    rfl
  · have none : r.find? name = none := find?_eq_none_iff.mpr unknown
    rw [dispatch, none]

theorem Serves.perm (serves : r.Serves ps) (perm : ps.Perm qs) : r.Serves qs where
  finds name p := by rw [← perm.mem_iff, serves.finds]
  hands p mem := serves.hands p (perm.mem_iff.mpr mem)
  refuses name unknown :=
    serves.refuses name fun known => unknown ((perm.map Plugin.name).mem_iff.mp known)

/-- A registry serves the plugins that it is made of. -/
theorem serves_of_made (made : (ofList ps).value = .ok r) : r.Serves ps :=
  r.serves.perm (ofList_eq_ok_iff.mp made).2

/-- The order of a list does not matter for its registry. -/
theorem ofList_perm (made : (ofList ps).value = .ok r) (perm : qs.Perm ps) :
    (ofList qs).value = .ok r := by
  obtain ⟨distinct, holds⟩ := ofList_eq_ok_iff.mp made
  exact ofList_eq_ok_iff.mpr ⟨(perm.map Plugin.name).nodup_iff.mpr distinct, holds.trans perm.symm⟩

/-- A registry of plugins with different names hands an import to the plugin of the name, and gives
back what it answers.  Where plugins tell their runs, one run is told, of this plugin and with what
was to be imported.  An unknown name is told back, and nothing is run.  A list of the same plugins
in another order makes a registry with the same names, which finds the same plugins and does the
same with every import. -/
theorem dispatch_as_listed (distinct : (ps.map Plugin.name).Nodup) :
    ∃ r, (ofList ps).value = .ok r ∧ r.Serves ps ∧
      (∀ tell, ∃ s, (ofList (ps.map (Plugin.telling tell))).value = .ok s ∧
        ∀ p ∈ ps, ∀ source destination, s.dispatch p.name source destination =
          .ok ⟨(p.run source destination).value,
            handedTo p.name :: tell p source destination ++ (p.run source destination).events⟩) ∧
      ∀ qs, qs.Perm ps → ∃ s, (ofList qs).value = .ok s ∧ s.names = r.names ∧
        (∀ name, s.find? name = r.find? name) ∧
        ∀ name source destination,
          s.dispatch name source destination = r.dispatch name source destination := by
  obtain ⟨r, made⟩ := exists_ofList_iff.mpr distinct
  refine ⟨r, made, serves_of_made made, fun tell => ?_, fun qs perm => ?_⟩
  · have names : (ps.map (Plugin.telling tell)).map Plugin.name = ps.map Plugin.name :=
      List.map_map
    obtain ⟨s, told⟩ := exists_ofList_iff.mpr (names ▸ distinct)
    exact ⟨s, told, fun p mem => (serves_of_made told).hands _ (List.mem_map_of_mem mem)⟩
  · exact ⟨r, ofList_perm made perm, rfl, fun _ => rfl, fun _ _ _ => rfl⟩

/-- Two plugins that answer with what they are given, in two orders. -/
theorem dispatch_as_listed_echoes :
    ([echo "b", echo "a"].map Plugin.name).Nodup ∧
      ∃ r, (ofList [echo "b", echo "a"]).value = .ok r ∧
        r.dispatch "a" (.bool true) .null =
          .ok ⟨.ok (.array [.bool true, .null]), [handedTo "a"]⟩ ∧
        r.dispatch "c" .null .null = .error (.pluginNotFound "c") ∧
        ∃ s, (ofList [echo "a", echo "b"]).value = .ok s ∧ s.names = r.names := by
  have distinct : ([echo "b", echo "a"].map Plugin.name).Nodup := by decide
  obtain ⟨r, made, serves, -, perm⟩ := dispatch_as_listed distinct
  obtain ⟨s, turned, names, -⟩ := perm [echo "a", echo "b"] (.swap _ _ _)
  refine ⟨distinct, r, made, ?_, serves.refuses "c" (by decide) _ _, s, turned, names⟩
  exact serves.hands (echo "a") (by simp) (.bool true) .null

end Registry

end SqlGateway.Import
