import Mathlib.Data.List.Induction
import Mathlib.Tactic.Common
import Watchtower.Proofs.Fields

/-!
Layers that override each other field by field.

A layer may set fields one by one or by tables of sections. Laid over what is below it, it changes
the fields that it sets and no others (`Layer.field?_onto?`). So every field of a configuration that
is loaded is what its variable says, or else what the file says, or else what it was before
(`Config.layers_override`).
-/

namespace Watchtower

open Config (Field)
open Setting (Selector)

/-! ### One setting over another -/

namespace Setting

/-- What is in force once settings are laid one after the other over what is below them. -/
def stack (vs : List Setting) (below : Option Setting) : Option Setting :=
  vs.foldl (fun below v => some (v.onto below)) below

theorem stack_append (us vs : List Setting) (below : Option Setting) :
    stack (us ++ vs) below = stack vs (stack us below) := List.foldl_append

theorem exists_stack (vs : List Setting) (s : Setting) : ∃ v, stack vs (some s) = some v := by
  induction vs generalizing s with
  | nil => exact ⟨s, rfl⟩
  | cons v vs ih => exact ih _

theorem isTable_ontoAll (rs : List (String × Setting)) {s : Setting} (h : s.isTable = true) :
    (ontoAll rs s).isTable = true := by
  induction rs generalizing s with
  | nil => rwa [ontoAll]
  | cons r rs ih =>
    rw [ontoAll]
    exact ih rfl

/-- Rows are laid over the rows of the same names. -/
theorem find_ontoAll (rs : List (String × Setting)) (below : Setting) (name : String) :
    Table.find name (ontoAll rs below).rows =
      stack ((rs.filter (·.1 = name)).map (·.2)) (Table.find name below.rows) := by
  induction rs generalizing below with
  | nil => rw [ontoAll]; rfl
  | cons r rs ih =>
    obtain ⟨k, v⟩ := r
    rw [ontoAll, ih, rows, Table.find_place]
    by_cases hk : k = name
    · subst hk
      simp [stack]
    · simp [hk]

/-- What is no table is the last thing laid down that is none, if there is one. -/
theorem stack_eq_some {vs : List Setting} {below : Option Setting} {v : Setting}
    (h : stack vs below = some v) (hv : v.isTable = false) :
    ((vs.filter (!·.isTable)).getLast?).or below = some v := by
  induction vs using List.reverseRecOn with
  | nil => exact h
  | append_singleton vs u ih =>
    rw [stack_append] at h
    obtain rfl : u.onto (stack vs below) = v := Option.some.inj h
    cases u with
    | table rs =>
      have hlast : (vs ++ [Setting.table rs]).filter (!·.isTable) = vs.filter (!·.isTable) := by
        simp [isTable]
      rw [hlast]
      refine ih ?_
      cases rs with
      | nil =>
        -- an empty table changes nothing
        cases hbelow : stack vs below with
        | some u => rfl
        | none => simp [hbelow, onto, ontoAll, empty, isTable] at hv
      | cons r rs =>
        rw [onto, ontoAll, isTable_ontoAll rs rfl] at hv
        cases hv
    | _ => simp [onto, isTable]

end Setting

/-! ### Layers -/

namespace Layer

/-- What an entry sets a field to, one setting after the other. -/
def settings (f : Field) : List Selector × Setting → List Setting
  | ([.name part], .table rows) =>
    if part = f.part then (rows.filter (·.1 = f.name)).map (·.2) else []
  | ([.name part, .name name], v) => if part = f.part ∧ name = f.name then [v] else []
  | _ => []

/-- The value that a layer has for a field: the last setting for it that is no table. -/
def value? (layer : Layer) (f : Field) : Option Setting :=
  ((layer.flatMap (settings f)).filter (!·.isTable)).getLast?

/-- A table under a name, or anything under a name within another. -/
def isRow : List Selector × Setting → Bool
  | ([.name _], v) => v.isTable
  | ([.name _, .name _], _) => true
  | _ => false

/-- What the layer has for a section is a table of it, or anything under a name in it. -/
def Sectioned (layer : Layer) : Prop :=
  ∀ e ∈ layer, (∃ part ∈ Config.names, e.1.head? = some (.name part)) → isRow e = true

instance (layer : Layer) : Decidable layer.Sectioned :=
  inferInstanceAs (Decidable (∀ e ∈ layer, _ → isRow e = true))

/-- Paths begin with names. -/
def Named (layer : Layer) : Prop := ∀ e ∈ layer, ∃ name rest, e.1 = .name name :: rest

variable {s t : Setting}

theorem part_mem (f : Field) : f.part ∈ Config.names := by cases f <;> decide

theorem settings_of_ne {part : String} {rest : List Selector} {v : Setting} {f : Field}
    (h : part ≠ f.part) : settings f (.name part :: rest, v) = [] := by
  unfold settings
  split
  · next heq => simp_all
  · next heq => simp_all
  · rfl

theorem isRow_cons {part : String} {rest : List Selector} {v : Setting}
    (h : isRow (.name part :: rest, v) = true) :
    (∃ rows, rest = [] ∧ v = .table rows) ∨ ∃ name, rest = [.name name] := by
  cases rest with
  | nil =>
    cases v with
    | table rows => exact .inl ⟨rows, rfl, rfl⟩
    | _ => cases h
  | cons selector rest =>
    cases selector with
    | index => cases h
    | name name =>
      cases rest with
      | nil => exact .inr ⟨name, rfl⟩
      | cons => cases h

/-- A row under the name of a section has the fields of this section. -/
theorem field?_place (part : String) (inner : Setting) (f : Field) :
    Setting.field? (.table (Table.place part inner s.rows)) f =
      if part = f.part then Table.find f.name inner.rows else s.field? f := by
  rw [Setting.field?_def, Setting.field?_def, Setting.rows, Table.find_place]
  split <;> rfl

theorem tabular_place {part : String} {inner : Setting} (hs : s.Tabular)
    (hinner : part ∈ Config.names → inner.isTable = true) :
    Setting.Tabular (.table (Table.place part inner s.rows)) where
  root := rfl
  parts := by
    intro other hother
    rw [Setting.rows, Table.find_place]
    split
    · next h =>
      subst h
      cases inner with
      | table rows => exact ⟨rows, rfl⟩
      | _ => cases hinner hother
    · exact hs.parts other hother

/-- One entry changes the fields that it sets and no others. -/
theorem field?_entry {part : String} {rest : List Selector} {v : Setting} (hs : s.Tabular)
    (hsection : part ∈ Config.names → isRow (.name part :: rest, v) = true)
    (h : v.place (.name part :: rest) (some s) = some t) :
    t.Tabular ∧ ∀ f, t.field? f =
      Setting.stack (settings f (.name part :: rest, v)) (s.field? f) := by
  obtain ⟨inner, hinner, ht⟩ := Option.bind_eq_some_iff.1 h
  obtain rfl := Option.some.inj ht
  show Setting.Tabular (.table (Table.place part inner s.rows)) ∧ ∀ f,
    Setting.field? (.table (Table.place part inner s.rows)) f = _
  have hsets : part ∈ Config.names → inner.isTable = true ∧ ∀ f : Field, part = f.part →
      Table.find f.name inner.rows =
        Setting.stack (settings f (.name part :: rest, v)) (s.field? f) := by
    intro hpart
    obtain ⟨rows, hrows⟩ := hs.parts part hpart
    replace hinner : v.place rest (some (.table rows)) = some inner := hrows ▸ hinner
    rcases isRow_cons (hsection hpart) with ⟨rs, rfl, rfl⟩ | ⟨name, rfl⟩
    · -- a table for the section
      obtain rfl : Setting.ontoAll rs (.table rows) = inner := Option.some.inj hinner
      refine ⟨Setting.isTable_ontoAll rs rfl, ?_⟩
      rintro f rfl
      rw [Setting.field?_eq hrows, Setting.find_ontoAll]
      simp [settings, Setting.rows]
    · -- one field of the section
      obtain rfl : Setting.table (Table.place name (v.onto (Table.find name rows)) rows) = inner :=
        Option.some.inj hinner
      refine ⟨rfl, ?_⟩
      rintro f rfl
      rw [Setting.field?_eq hrows, Setting.rows, Table.find_place]
      by_cases hname : name = f.name
      · subst hname
        simp [settings, Setting.stack]
      · simp [settings, Setting.stack, hname]
  refine ⟨tabular_place hs fun hpart => (hsets hpart).1, fun f => ?_⟩
  rw [field?_place]
  split
  · next hf => exact (hsets (hf ▸ part_mem f)).2 f hf
  · next hf =>
    rw [settings_of_ne hf]
    rfl

/-- A layer changes the fields that it sets and no others. -/
theorem field?_onto? {layer : Layer} (hnamed : layer.Named) (hsections : layer.Sectioned)
    (hs : s.Tabular) (h : layer.onto? s = some t) :
    t.Tabular ∧ ∀ f, t.field? f = Setting.stack (layer.flatMap (settings f)) (s.field? f) := by
  induction layer generalizing s with
  | nil =>
    obtain rfl := Option.some.inj h
    exact ⟨hs, fun _ => rfl⟩
  | cons e layer ih =>
    obtain ⟨u, hu, hrest⟩ := Option.bind_eq_some_iff.1 h
    obtain ⟨hus, hentry⟩ : u.Tabular ∧
        ∀ f, u.field? f = Setting.stack (settings f e) (s.field? f) := by
      obtain ⟨path, v⟩ := e
      obtain ⟨part, rest, rfl⟩ := hnamed _ List.mem_cons_self
      exact field?_entry hs (fun hpart => hsections _ List.mem_cons_self ⟨part, hpart, rfl⟩) hu
    obtain ⟨ht, hfields⟩ := ih (fun e he => hnamed e (List.mem_cons_of_mem _ he))
      (fun e he => hsections e (List.mem_cons_of_mem _ he)) hus hrest
    refine ⟨ht, fun f => ?_⟩
    rw [hfields, hentry, List.flatMap_cons, Setting.stack_append]

/-- A path that a text spells begins with a name. -/
theorem path?_named {text : String} {path : List Selector} (h : path? text = some path) :
    ∃ name rest, path = .name name :: rest := by
  obtain ⟨⟨selector, r⟩, hname, hpath⟩ := Option.bind_eq_some_iff.1 h
  obtain ⟨rest, -, hrest⟩ := Option.bind_eq_some_iff.1 hpath
  obtain rfl := Option.some.inj hrest
  unfold name? at hname
  dsimp only at hname
  split at hname
  · cases hname
  · obtain ⟨rfl, -⟩ := Prod.mk.inj (Option.some.inj hname)
    exact ⟨_, _, rfl⟩

theorem named_ofRows (rows : List (String × Setting)) : (ofRows rows).Named := by
  intro e he
  obtain ⟨⟨name, v⟩, -, rfl⟩ := List.mem_map.1 he
  dsimp only
  cases hpath : path? name.toLower with
  | none => exact ⟨_, _, rfl⟩
  | some path => exact path?_named hpath

end Layer

/-! ### Variables -/

namespace Config.Field

/-- The name of the variable of a field, in lower case. -/
def label (f : Field) : String := "meld__" ++ f.part ++ "__" ++ f.name

end Config.Field

namespace Environment

/-- The variable names the field. -/
def names (f : Field) (v : String × String) : Bool :=
  Numeric.lower v.1.toList = f.label.toList

/-- The value that variables have for a field: what the last one that names it and is not empty
stands for. -/
def value? (env : Environment) (f : Field) : Option Setting :=
  ((env.filter fun v => names f v && !v.2.isEmpty).getLast?).map fun v => .ofText v.2

/-- Variables that set something within a section name a field. -/
def NamesFields (env : Environment) : Prop :=
  ∀ v ∈ env, ∀ part ∈ Config.names, (path? v.1).bind List.head? = some (.name part) →
    ∃ f : Field, names f v = true

variable {env : Environment} {f g : Field} {v : String × String}

theorem path?_of_names (h : names f v = true) : path? v.1 = some [.name f.part, .name f.name] := by
  have hname : Numeric.lower v.1.toList = f.label.toList := of_decide_eq_true h
  unfold path?
  rw [hname]
  cases f <;> decide +kernel

theorem isTable_ofText (text : String) : (Setting.ofText text).isTable = false := by
  unfold Setting.ofText
  dsimp only
  split
  · rfl
  split
  · rfl
  split
  · rfl
  split <;> rfl

/-- An entry of the layer comes from a variable that is not empty. -/
theorem entry?_eq_some {e : List Selector × Setting} : entry? v = some e ↔
    v.2.isEmpty = false ∧ path? v.1 = some e.1 ∧ e.2 = .ofText v.2 := by
  unfold entry?
  dsimp only
  split
  · next h => simp [h]
  · next h =>
    rw [Option.map_eq_some_iff]
    constructor
    · rintro ⟨path, hpath, rfl⟩
      exact ⟨Bool.eq_false_iff.2 h, hpath, rfl⟩
    · rintro ⟨-, hpath, hsetting⟩
      exact ⟨e.1, hpath, Prod.ext rfl hsetting.symm⟩

theorem named_path? {path : List Selector} (h : path? v.1 = some path) :
    ∃ name rest, path = .name name :: rest := by
  unfold path? at h
  dsimp only at h
  split at h
  · exact Layer.path?_named h
  · cases h

theorem named_layer (env : Environment) : env.layer.Named := by
  intro e he
  obtain ⟨v, -, hv⟩ := List.mem_filterMap.1 he
  exact named_path? (entry?_eq_some.1 hv).2.1

theorem sectioned_layer (h : env.NamesFields) : env.layer.Sectioned := by
  rintro ⟨path, s⟩ he ⟨part, hpart, hhead⟩
  obtain ⟨v, hmem, hv⟩ := List.mem_filterMap.1 he
  have hpath : path? v.1 = some path := (entry?_eq_some.1 hv).2.1
  obtain ⟨f, hf⟩ := h v hmem part hpart (by rw [hpath]; exact hhead)
  obtain rfl := Option.some.inj (hpath.symm.trans (path?_of_names hf))
  rfl

/-- A variable sets the field that it names and no other. -/
theorem settings_entry (h : env.NamesFields) (hv : v ∈ env) {e : List Selector × Setting}
    (he : entry? v = some e) (f : Field) :
    Layer.settings f e = if names f v then [.ofText v.2] else [] := by
  obtain ⟨-, hpath, hsetting⟩ := entry?_eq_some.1 he
  obtain ⟨path, v'⟩ := e
  obtain rfl : v' = .ofText v.2 := hsetting
  split
  · next hf =>
    obtain rfl := Option.some.inj (hpath.symm.trans (path?_of_names hf))
    simp [Layer.settings]
  · next hf =>
    obtain ⟨part, rest, rfl⟩ := named_path? hpath
    by_cases hpart : part = f.part
    · obtain ⟨g, hg⟩ := h v hv part (hpart ▸ Layer.part_mem f) (by rw [hpath]; rfl)
      have hplace := Option.some.inj (hpath.symm.trans (path?_of_names hg))
      have hne : g.name ≠ f.name := fun e => hf (Field.name_injective e ▸ hg)
      obtain ⟨-, rfl⟩ := List.cons.inj hplace
      simp [Layer.settings, hne]
    · exact Layer.settings_of_ne hpart

/-- A variable that names a field and is not empty has an entry. -/
theorem entry?_of_names (hf : names f v = true) (htext : v.2.isEmpty = false) :
    entry? v = some ([.name f.part, .name f.name], .ofText v.2) :=
  entry?_eq_some.2 ⟨htext, path?_of_names hf, rfl⟩

/-- The settings that the layer has for a field are those of the variables that name it. -/
theorem flatMap_layer (h : env.NamesFields) (f : Field) : env.layer.flatMap (Layer.settings f) =
    (env.filter fun v => names f v && !v.2.isEmpty).map fun v => .ofText v.2 := by
  unfold layer
  induction env with
  | nil => rfl
  | cons v vs ih =>
    have ih := ih fun u hu => h u (List.mem_cons_of_mem _ hu)
    cases he : entry? v with
    | none =>
      have hunset : (names f v && !v.2.isEmpty) = false := by
        cases hf : names f v with
        | false => rfl
        | true =>
          cases htext : v.2.isEmpty with
          | true => rfl
          | false => simp [entry?_of_names hf htext] at he
      rw [List.filterMap_cons_none he, ih, List.filter_cons, hunset]
      rfl
    | some e =>
      have htext := (entry?_eq_some.1 he).1
      rw [List.filterMap_cons_some he, List.flatMap_cons,
        settings_entry h List.mem_cons_self he, ih, List.filter_cons]
      cases hf : names f v <;> simp [htext]

/-- The layer has the values of its variables. -/
theorem value?_layer (h : env.NamesFields) (f : Field) : env.layer.value? f = env.value? f := by
  have hleaf : ∀ vs : Environment, (vs.map fun v => Setting.ofText v.2).filter (!·.isTable) =
      vs.map fun v => Setting.ofText v.2 := fun vs => by
    rw [List.filter_eq_self]
    intro s hs
    obtain ⟨v, -, rfl⟩ := List.mem_map.1 hs
    rw [isTable_ofText]
    rfl
  rw [Layer.value?, flatMap_layer h, hleaf, List.getLast?_map]
  rfl

/-- The layer of the file that the variable for it names, or an empty one without this variable. -/
def file? (env : Environment) (t : FileTree) : Option Layer :=
  match env.findRev? (·.1 == "CONFIG_PATH") with
  | some (_, name) => t.layer? name
  | none => some []

end Environment

/-! ### Configurations -/

theorem FileTree.named_layer? {t : FileTree} {name : String} {file : Layer}
    (h : t.layer? name = some file) : file.Named := by
  obtain ⟨text, -, h⟩ := Option.bind_eq_some_iff.1 h
  obtain ⟨s, -, h⟩ := Option.bind_eq_some_iff.1 h
  obtain rfl := Option.some.inj h
  exact Layer.named_ofRows s.rows

theorem Environment.named_file? {env : Environment} {t : FileTree} {file : Layer}
    (h : env.file? t = some file) : file.Named := by
  unfold file? at h
  split at h
  · exact FileTree.named_layer? h
  · obtain rfl := Option.some.inj h
    exact nofun

namespace LoadFault

variable {α β : Type} {fault : LoadFault} {x : Option α}

theorem need_eq_ok {a : α} : fault.need x = .ok a ↔ x = some a := by
  cases x <;> simp [need]

theorem need_bind_eq_ok {f : α → Except LoadFault β} {b : β} :
    (fault.need x >>= f) = .ok b ↔ ∃ a, x = some a ∧ f a = .ok b := by
  cases x <;> simp [need, bind, Except.bind]

end LoadFault

namespace Config

variable {base c : Config} {t : FileTree} {env : Environment} {file : Layer}

theorem load_eq (t : FileTree) (env : Environment) :
    load t env = default.layered (env.file? t) env := by
  unfold load Environment.file?
  cases env.findRev? (·.1 == "CONFIG_PATH") <;> rfl

theorem layered_eq_ok {layer : Option Layer} : base.layered layer env = .ok c ↔
    ∃ below, base.toSetting? = some below ∧ ∃ file, layer = some file ∧
      ∃ s, file.onto? below = some s ∧ ∃ s', env.layer.onto? s = some s' ∧
        ofSetting? s' = some c := by
  simp only [layered, LoadFault.need_bind_eq_ok, LoadFault.need_eq_ok]

/-- Every field is what its variable says, or else what the file says, or else what it was written
as. -/
theorem read_of_layered (hnamed : file.Named) (hsections : file.Sectioned) (henv : env.NamesFields)
    (h : base.layered (some file) env = .ok c) (f : Field) :
    ∃ v, ((env.value? f).or (file.value? f)).or (f.written base) = some v ∧
      f.read v = some (f.get c) := by
  obtain ⟨below, hbelow, file', hfile, s, hs, s', hs', hc⟩ := layered_eq_ok.1 h
  obtain rfl := Option.some.inj hfile
  obtain ⟨hsTabular, hsField⟩ := Layer.field?_onto? hnamed hsections (tabular_toSetting? hbelow) hs
  obtain ⟨htabular, hfield⟩ := Layer.field?_onto? env.named_layer
    (Environment.sectioned_layer henv) hsTabular hs'
  obtain ⟨u, hu, hwritten⟩ := exists_written hbelow f
  have hstack := hfield f
  rw [hsField, hu, ← Setting.stack_append] at hstack
  obtain ⟨v, hv⟩ : ∃ v, s'.field? f = some v := by
    rw [hstack]
    exact Setting.exists_stack _ u
  have hread := read_of_ofSetting? htabular hc f
  rw [hv] at hread
  refine ⟨v, ?_, hread⟩
  have hlast := Setting.stack_eq_some (hstack.symm.trans hv) (Field.isTable_of_read hread)
  rw [List.filter_append, List.getLast?_append] at hlast
  rw [hwritten, ← Environment.value?_layer henv]
  exact hlast

/-- A configuration that is loaded: what it is loaded from, and the configuration below that. -/
inductive Loaded (t : FileTree) (env : Environment) (file : Layer) : Config → Config → Prop where
  | load {c : Config} (hfile : env.file? t = some file) (h : load t env = .ok c) :
    Loaded t env file default c
  | override {base c : Config} {name : String} (hfile : t.layer? name = some file)
    (h : base.override t env name = .ok c) : Loaded t env file base c

/-- Every field of the configuration is what its variable says, or else what the file says, or else
what it is in another configuration. -/
structure Follows (c : Config) (env : Environment) (file : Layer) (base : Config) : Prop where
  fromVariable : ∀ f v, env.value? f = some v → f.read v = some (f.get c)
  fromFile : ∀ f v, env.value? f = none → file.value? f = some v → f.read v = some (f.get c)
  fromBase : ∀ f, env.value? f = none → file.value? f = none → f.Same (f.get c) (f.get base)

namespace Loaded

theorem named (h : Loaded t env file base c) : file.Named := by
  cases h with
  | load hfile => exact Environment.named_file? hfile
  | override hfile => exact FileTree.named_layer? hfile

theorem layered (h : Loaded t env file base c) : base.layered (some file) env = .ok c := by
  cases h with
  | load hfile h => rwa [load_eq, hfile] at h
  | override hfile h => rwa [Config.override, hfile] at h

/-- Whatever is loaded is loaded from some file, or from an empty one. -/
theorem exists_of_load (h : Config.load t env = .ok c) : ∃ file, Loaded t env file default c := by
  have hlayered := h
  rw [load_eq] at hlayered
  obtain ⟨-, -, file, hfile, -⟩ := layered_eq_ok.1 hlayered
  exact ⟨file, .load hfile h⟩

theorem exists_of_override {name : String} (h : base.override t env name = .ok c) :
    ∃ file, Loaded t env file base c := by
  obtain ⟨-, -, file, hfile, -⟩ := layered_eq_ok.1 h
  exact ⟨file, .override hfile h⟩

theorem follows (h : Loaded t env file base c) (henv : env.NamesFields)
    (hsections : file.Sectioned) : c.Follows env file base := by
  have hfield := read_of_layered h.named hsections henv h.layered
  have hset : ∀ {f v}, (env.value? f).or (file.value? f) = some v → f.read v = some (f.get c) := by
    intro f v hv
    obtain ⟨u, hu, hread⟩ := hfield f
    rw [hv] at hu
    obtain rfl := Option.some.inj hu
    exact hread
  refine ⟨fun f v hv => hset ?_, fun f v hunset hv => hset ?_, fun f hunset hunset' => ?_⟩
  · rw [hv]
    rfl
  · rw [hunset, hv]
    rfl
  · obtain ⟨u, hu, hread⟩ := hfield f
    rw [hunset, hunset'] at hu
    exact Field.same_of_written hu hread

end Loaded

/-- Layers override each other field by field. Where variables name fields and the file has tables
for sections, every field of a configuration that is loaded is what its variable says, or else what
the file says, or else what it is in the configuration below. Loaded with other variables or from
another file, a field comes out the same if there are the same values for it. -/
theorem layers_override (t : FileTree) {env : Environment} (henv : env.NamesFields) :
    (∀ c, load t env = .ok c → ∃ file, Loaded t env file default c) ∧
    (∀ base name c, override base t env name = .ok c → ∃ file, Loaded t env file base c) ∧
    ∀ file base c, Loaded t env file base c → file.Sectioned → c.Follows env file base ∧
      ∀ t' env' file' c', Loaded t' env' file' base c' → env'.NamesFields → file'.Sectioned →
        ∀ f : Field, env'.value? f = env.value? f → file'.value? f = file.value? f →
          f.get c' = f.get c := by
  refine ⟨fun _ => Loaded.exists_of_load, fun _ _ _ => Loaded.exists_of_override,
    fun file base c h hsections => ⟨h.follows henv hsections, ?_⟩⟩
  intro t' env' file' c' h' henv' hsections' f hvariable hfile
  obtain ⟨u, hu, hread⟩ := read_of_layered h.named hsections henv h.layered f
  obtain ⟨v, hv, hread'⟩ := read_of_layered h'.named hsections' henv' h'.layered f
  rw [hvariable, hfile, hu] at hv
  obtain rfl := Option.some.inj hv
  exact Option.some.inj (hread'.symm.trans hread)

end Config

/-! A file, and a variable for one of the fields that the file sets. -/

namespace Sample

def settingsText : String := "[engine]\ndispatch_queue_size = 5\nrate_window_secs = 7\n"

def files : FileTree := ⟨[], .directory [("b.toml", .file settingsText)]⟩

def environment : Environment :=
  [("CONFIG_PATH", "/b"), ("MELD__ENGINE__DISPATCH_QUEUE_SIZE", "2048")]

theorem namesFields_environment : environment.NamesFields := by
  intro v hv part _ hpath
  rcases List.mem_cons.1 hv with rfl | hv
  · have hnone : Environment.path? "CONFIG_PATH" = none := by decide +kernel
    rw [hnone] at hpath
    cases hpath
  · obtain rfl := List.mem_singleton.1 hv
    exact ⟨.queueSize, by decide +kernel⟩

theorem steps_file : Steps.ofPath "/b" = ["b"] := by
  rw [Steps.ofPath, String.splitOn, if_neg (by decide), String.splitOnAux, if_neg (by decide),
    if_pos (by decide)]
  dsimp only
  rw [if_pos (by decide), String.splitOnAux, if_neg (by decide), if_neg (by decide),
    String.splitOnAux, if_pos (by decide)]
  decide

theorem settingsText?_files : files.settingsText? "/b" = some settingsText := by
  have hpath : files.absolute "/b" = "/b" := by decide +kernel
  have hentry : (files.entry? "/b").isNone = true := by
    unfold FileTree.entry?
    rw [steps_file]
    decide +kernel
  unfold FileTree.settingsText?
  rw [hpath]
  dsimp only
  rw [Option.isNone_iff_eq_none.1 hentry, steps_file]
  decide +kernel

/-- What is read from the file. -/
def file : Layer := (Toml.parse? settingsText).elim [] fun s => .ofRows s.rows

theorem file?_environment : environment.file? files = some file := by
  have hlayer : environment.file? files = files.layer? "/b" := rfl
  have hparsed : (Toml.parse? settingsText).isSome = true := by decide +kernel
  obtain ⟨s, hs⟩ := Option.isSome_iff_exists.1 hparsed
  rw [hlayer, FileTree.layer?, settingsText?_files, file]
  simp only [Option.bind_eq_bind, Option.bind_some, hs, Option.elim_some]

end Sample

namespace Config

/-- In the sample the variable counts for its field, the file for another one, and the default for a
third. -/
theorem sample_layers_override : ∃ c, load Sample.files Sample.environment = .ok c ∧
    c.engine.queueSize = 2048 ∧ c.engine.windowSeconds = 7 ∧ c.engine.maxInFlight = 64 := by
  have hload : (load Sample.files Sample.environment).toOption.isSome = true := by
    rw [load_eq, Sample.file?_environment]
    decide +kernel
  obtain ⟨c, hc⟩ : ∃ c, load Sample.files Sample.environment = .ok c := by
    cases h : load Sample.files Sample.environment with
    | ok c => exact ⟨c, rfl⟩
    | error => simp [h, Except.toOption] at hload
  obtain ⟨-, -, hfollows⟩ := layers_override Sample.files Sample.namesFields_environment
  obtain ⟨hvariable, hfile, hbase⟩ :=
    (hfollows _ _ _ (.load Sample.file?_environment hc) (by decide +kernel)).1
  refine ⟨c, hc, ?_, ?_, hbase .maxInFlight (by decide +kernel) (by decide +kernel)⟩
  · have hread : (Sample.environment.value? .queueSize).bind (Field.read .queueSize) =
        some 2048 := by decide +kernel
    obtain ⟨v, hv, hread⟩ := Option.bind_eq_some_iff.1 hread
    exact Option.some.inj ((hvariable _ v hv).symm.trans hread)
  · have hread : (Sample.file.value? .windowSeconds).bind (Field.read .windowSeconds) = some 7 := by
      decide +kernel
    obtain ⟨v, hv, hread⟩ := Option.bind_eq_some_iff.1 hread
    exact Option.some.inj ((hfile _ v (by decide +kernel) hv).symm.trans hread)

end Config

end Watchtower
