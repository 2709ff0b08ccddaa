import SqlGateway.Fault
import SqlGateway.Log
import SqlGateway.Query.Error
import SqlGateway.Text.Quoted

/-!
# Plugins and their registry

An import is the work of a plugin, which is told where the data is and where it shall go.
Both are values that mean something to the plugin alone.

A `Registry` holds plugins in strictly increasing order of their names, so no two plugins
have one name.  `Registry.ofList` makes a registry of plugins in any order, and refuses the
first one whose name is taken.  `Registry.dispatch` hands an import to the plugin of a
name, and changes nothing of what the plugin answers.
-/

namespace SqlGateway.Import

/-! ## Plugins -/

/-- What comes of an import: an answer of the plugin, or an error. -/
abbrev Outcome := Except Query.Error Json

/-- Something that imports data. -/
structure Plugin where
  /-- Its name. -/
  name : String
  /-- What it makes of a source and a destination. -/
  run : (source destination : Json) → Logged Outcome

/-! ## Sorted lists of plugins -/

/-- One plugin comes before another. -/
def Plugin.Before (p q : Plugin) : Prop := p.name < q.name

/-- The plugin of a name. -/
def find? (name : String) : List Plugin → Option Plugin
  | [] => none
  | p :: ps => if p.name = name then some p else find? name ps

/-- Put a plugin in its place, if its name is not taken. -/
def insert? (p : Plugin) : List Plugin → Option (List Plugin)
  | [] => some [p]
  | q :: qs =>
      if p.name < q.name then some (p :: q :: qs)
      else if p.name = q.name then none
      else (insert? p qs).map (q :: ·)

/-- A plugin of the new list is the one put in or one of the old list. -/
theorem mem_of_mem_insert? {p : Plugin} {ps qs : List Plugin} (h : insert? p ps = some qs)
    {r : Plugin} (hr : r ∈ qs) : r = p ∨ r ∈ ps := by
  induction ps generalizing qs with
  | nil =>
      cases h
      simpa using hr
  | cons q ps ih =>
      rw [insert?] at h
      split at h
      · cases h
        simpa using hr
      · split at h
        · cases h
        · obtain ⟨rs, hrs, rfl⟩ := Option.map_eq_some_iff.1 h
          rcases List.mem_cons.1 hr with rfl | hr
          · simp
          · rcases ih hrs hr with rfl | hr <;> simp [*]

/-- A plugin in its place leaves the list sorted. -/
theorem sorted_of_insert? {p : Plugin} {ps qs : List Plugin} (h : insert? p ps = some qs)
    (sorted : ps.Pairwise Plugin.Before) : qs.Pairwise Plugin.Before := by
  induction ps generalizing qs with
  | nil =>
      cases h
      simp
  | cons q ps ih =>
      cases sorted with
      | cons before sorted =>
          rw [insert?] at h
          split at h
          next lt =>
            cases h
            refine .cons ?_ (.cons before sorted)
            intro r hr
            rcases List.mem_cons.1 hr with rfl | hr
            · exact lt
            · exact String.lt_trans lt (before r hr)
          next nlt =>
            split at h
            · cases h
            next ne =>
              obtain ⟨rs, hrs, rfl⟩ := Option.map_eq_some_iff.1 h
              refine .cons ?_ (ih hrs sorted)
              intro r hr
              rcases mem_of_mem_insert? hrs hr with rfl | hr
              · exact Std.lt_of_le_of_ne (Std.not_lt.1 nlt) (Ne.symm ne)
              · exact before r hr

/-! ## Registries -/

/-- Plugins by name. -/
structure Registry where
  /-- The plugins. -/
  plugins : List Plugin
  /-- Their names increase strictly. -/
  sorted : plugins.Pairwise Plugin.Before

namespace Registry

/-- A registry without plugins. -/
def empty : Registry := ⟨[], .nil⟩

/-- A registry and one more plugin, if its name is not taken. -/
def insert? (p : Plugin) (r : Registry) : Option Registry :=
  match h : Import.insert? p r.plugins with
  | none => none
  | some ps => some ⟨ps, sorted_of_insert? h r.sorted⟩

/-- A registry and more plugins, up to the first whose name is taken. -/
def insertAll (r : Registry) : List Plugin → Except Fault Registry
  | [] => .ok r
  | p :: ps =>
      match r.insert? p with
      | none => .error (.duplicatePlugin p.name)
      | some r => insertAll r ps

/-- A registry of plugins. -/
def ofList (ps : List Plugin) : Logged (Except Fault Registry) :=
  match insertAll empty ps with
  | .error f => ⟨.error f, []⟩
  | .ok r => ⟨.ok r, [⟨.debug, .registry, s!"Registered {r.plugins.length} plugin(s)", []⟩]⟩

/-- The names of the plugins. -/
def names (r : Registry) : List String := r.plugins.map (·.name)

/-- The plugin of a name. -/
def find? (r : Registry) (name : String) : Option Plugin := Import.find? name r.plugins

/-- Hand an import to the plugin of a name. -/
def dispatch (r : Registry) (name : String) (source destination : Json) :
    Except Fault (Logged Outcome) :=
  match r.find? name with
  | none => .error (.pluginNotFound name)
  | some p =>
      .ok
        ((p.run source destination).after
          [⟨.debug, .registry, s!"Dispatching import to plugin '{name}'", []⟩])

/-- A description of a registry. -/
def description (r : Registry) : String :=
  "Db \x7b plugins: [" ++ ", ".intercalate (r.names.map quote) ++ "] \x7d"

end Registry

end SqlGateway.Import
