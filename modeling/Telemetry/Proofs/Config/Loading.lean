import Telemetry.Config.Load
import Telemetry.Proofs.Config.Layer
import Telemetry.Proofs.Text.Numeral

/-! Loading a configuration from its layers: each setting is that of the environment, else that of the file, else the
default. Every layer has to be valid by itself, whether or not another one covers what it sets. -/
namespace Telemetry

open Json (exists_of_bind_eq_ok)

/-- A layer that sets nothing. -/
def Overrides.nothing : Overrides := ⟨none, none, none, none, none⟩

/-- What the file at a path sets, if it is there and can be read. -/
def Files.Holds (files : Files) (path : String) (o : Overrides) : Prop :=
  ∃ content text, files.find? path = some (.file content) ∧ Overrides.text? content = some text ∧
    Overrides.parse? text = some o

/-- Without a file nothing is set. -/
def Files.Sets (files : Files) (path : String) (o : Overrides) : Prop :=
  files.find? path = none ∧ o = .nothing ∨ files.Holds path o

/-- A size in the environment is a numeral that fits a word. -/
inductive StatesSize : Option String → Option Nat → Prop
  | unset : StatesSize none none
  | set {text : String} {n : Nat} (h : Text.IsNumeral false text.toList n) (hn : n < 2 ^ 64) :
      StatesSize (some text) (some n)

/-- What the environment sets, if its sizes can be read. -/
structure Environment.Sets (env : Environment) (o : Overrides) : Prop where
  dbPath : o.dbPath = env.dbPath
  flushEvery : StatesSize env.flushEvery o.flushEvery
  readerPoolSize : StatesSize env.readerPoolSize o.readerPoolSize
  logFilter : o.logFilter = env.logFilter
  logFormat : o.logFormat = env.logFormat

/-- Each setting is that of the upper layer, else that of the lower one, else the default. An empty path is none. -/
structure Config.IsLayered (upper lower : Overrides) (config : Config) : Prop where
  dbPath : config.dbPath = (upper.dbPath.or lower.dbPath).filter (· ≠ "")
  flushEvery : config.flushEvery = (upper.flushEvery.or lower.flushEvery).getD Config.default.flushEvery
  readerPoolSize :
    config.readerPoolSize = (upper.readerPoolSize.or lower.readerPoolSize).getD Config.default.readerPoolSize
  logFilter : config.logFilter = (upper.logFilter.or lower.logFilter).getD Config.default.logFilter
  logFormat : LogFormat.Chosen Config.default.logFormat (upper.logFormat.or lower.logFormat) config.logFormat

namespace Config

variable {files : Files} {env : Environment} {path : String} {o : Overrides} {config : Config}

section Reading

/-- Sizes are read from the environment as they are stated there. -/
theorem readSize_eq_ok_iff {name : String} {text : Option String} {size : Option Nat} :
    Overrides.size name text = .ok size ↔ StatesSize text size := by
  cases text with
  | none =>
    constructor
    · intro h
      obtain rfl := Except.ok.inj h
      exact .unset
    · rintro ⟨⟩
      rfl
  | some text =>
    constructor
    · intro h
      unfold Overrides.size at h
      split at h
      · cases ‹some text = none›
      · rename_i heq
        obtain rfl := Option.some.inj heq
        split at h
        · rename_i n hn
          obtain rfl := Except.ok.inj h
          obtain ⟨hnumeral, hlow, hhigh⟩ := Text.readUInt64_eq_ok_iff.1 hn
          refine .set ?_ (by omega)
          rwa [Int.toNat_of_nonneg hlow]
        · cases h
    · rintro (_ | ⟨hnumeral, hn⟩)
      have hread := Text.readUInt64_eq_ok_iff.2 ⟨hnumeral, by omega, by omega⟩
      simp only [Overrides.size, hread, Int.toNat_natCast]

theorem ofEnvironment_eq_ok_iff : Overrides.ofEnvironment env = .ok o ↔ env.Sets o := by
  constructor
  · intro h
    obtain ⟨flushEvery, hflush, h⟩ := exists_of_bind_eq_ok h
    obtain ⟨readerPoolSize, hpool, h⟩ := exists_of_bind_eq_ok h
    obtain rfl := Except.ok.inj h
    exact ⟨rfl, readSize_eq_ok_iff.1 hflush, readSize_eq_ok_iff.1 hpool, rfl, rfl⟩
  · rintro ⟨hpath, hflush, hpool, hfilter, hformat⟩
    rw [Overrides.ofEnvironment, readSize_eq_ok_iff.2 hflush, readSize_eq_ok_iff.2 hpool, ← hpath, ← hfilter, ← hformat]
    rfl

theorem ofFile_eq_none_iff : Overrides.ofFile files path = .ok none ↔ files.find? path = none := by
  constructor
  · intro h
    unfold Overrides.ofFile at h
    split at h
    · assumption
    · cases h
    · split at h
      · cases h
      · split at h <;> cases h
  · intro h
    rw [Overrides.ofFile, h]

theorem ofFile_eq_some_iff : Overrides.ofFile files path = .ok (some o) ↔ files.Holds path o := by
  constructor
  · intro h
    unfold Overrides.ofFile at h
    split at h
    · cases h
    · cases h
    · rename_i content hfind
      split at h
      · cases h
      · rename_i text htext
        split at h
        · cases h
        · rename_i parsed hparse
          obtain rfl := Option.some.inj (Except.ok.inj h)
          exact ⟨content, text, hfind, htext, hparse⟩
  · rintro ⟨content, text, hfind, htext, hparse⟩
    simp only [Overrides.ofFile, hfind, htext, hparse]

/-- The layers are laid over one another one by one. -/
theorem IsUnder.isLayered_iff {base : Config} {upper lower : Overrides} (h : IsUnder default lower base) :
    config.IsLayered upper lower ↔ IsUnder base upper config := by
  have hpath : (upper.dbPath.or lower.dbPath).filter (· ≠ "") =
      (upper.dbPath.map fun path => if path = "" then none else some path).getD base.dbPath := by
    rw [h.dbPath]
    cases upper.dbPath with
    | some path => exact filter_ne_empty (some path)
    | none => exact filter_ne_empty lower.dbPath
  have hflush : (upper.flushEvery.or lower.flushEvery).getD default.flushEvery =
      upper.flushEvery.getD base.flushEvery := by
    rw [h.flushEvery, Option.getD_or]
  have hpool : (upper.readerPoolSize.or lower.readerPoolSize).getD default.readerPoolSize =
      upper.readerPoolSize.getD base.readerPoolSize := by
    rw [h.readerPoolSize, Option.getD_or]
  have hfilter : (upper.logFilter.or lower.logFilter).getD default.logFilter =
      upper.logFilter.getD base.logFilter := by
    rw [h.logFilter, Option.getD_or]
  constructor
  · rintro ⟨h₁, h₂, h₃, h₄, h₅⟩
    exact ⟨h₁.trans hpath, h₂.trans hflush, h₃.trans hpool, h₄.trans hfilter, (chosen_or_iff h.logFormat).1 h₅⟩
  · rintro ⟨h₁, h₂, h₃, h₄, h₅⟩
    exact ⟨h₁.trans hpath.symm, h₂.trans hflush.symm, h₃.trans hpool.symm, h₄.trans hfilter.symm,
      (chosen_or_iff h.logFormat).2 h₅⟩

theorem exists_isUnder (h : o.IsValid) (base : Config) : ∃ config, IsUnder base o config := by
  have hformat : ∃ f, LogFormat.Chosen base.logFormat o.logFormat f := by
    cases htext : o.logFormat with
    | none => exact ⟨_, rfl⟩
    | some text => exact h.logFormat text htext
  obtain ⟨f, hf⟩ := hformat
  exact ⟨⟨_, _, _, _, f⟩, rfl, rfl, rfl, rfl, hf⟩

/-- The configuration under the file at a path, if there is one. -/
def underFile (files : Files) (path : String) : Except Failure Config := do
  match ← Overrides.ofFile files path with
  | none => return default
  | some o => default.apply o .file

theorem load_eq (files : Files) (env : Environment) :
    load files env = underFile files (filePath env) >>= fun base =>
      Overrides.ofEnvironment env >>= fun o => base.apply o .environment := by
  unfold load underFile
  cases Overrides.ofFile files (filePath env) with
  | error e => rfl
  | ok found => cases found <;> rfl

theorem underFile_eq_ok_iff :
    underFile files path = .ok config ↔ ∃ file, files.Sets path file ∧ file.IsValid ∧ IsUnder default file config := by
  unfold underFile
  constructor
  · intro h
    obtain ⟨found, hfound, h⟩ := exists_of_bind_eq_ok h
    cases found with
    | none =>
      obtain rfl := Except.ok.inj h
      exact ⟨.nothing, .inl ⟨ofFile_eq_none_iff.1 hfound, rfl⟩, ⟨nofun, nofun, nofun⟩, ⟨rfl, rfl, rfl, rfl, rfl⟩⟩
    | some o => exact ⟨o, .inr (ofFile_eq_some_iff.1 hfound), apply_eq_ok_iff.1 h⟩
  · rintro ⟨file, ⟨habsent, rfl⟩ | hholds, hvalid, hunder⟩
    · have hdefault : default.apply .nothing .file = .ok config := apply_eq_ok_iff.2 ⟨hvalid, hunder⟩
      rw [ofFile_eq_none_iff.2 habsent]
      exact hdefault
    · rw [ofFile_eq_some_iff.2 hholds]
      exact apply_eq_ok_iff.2 ⟨hvalid, hunder⟩

theorem load_eq_ok_iff :
    load files env = .ok config ↔ ∃ file environment, files.Sets (filePath env) file ∧ env.Sets environment ∧
      file.IsValid ∧ environment.IsValid ∧ config.IsLayered environment file := by
  rw [load_eq]
  constructor
  · intro h
    obtain ⟨base, hbase, h⟩ := exists_of_bind_eq_ok h
    obtain ⟨environment, henv, h⟩ := exists_of_bind_eq_ok h
    obtain ⟨file, hsets, hfile, hunder⟩ := underFile_eq_ok_iff.1 hbase
    obtain ⟨henvironment, hover⟩ := apply_eq_ok_iff.1 h
    exact ⟨file, environment, hsets, ofEnvironment_eq_ok_iff.1 henv, hfile, henvironment,
      hunder.isLayered_iff.2 hover⟩
  · rintro ⟨file, environment, hsets, henv, hfile, henvironment, hlayered⟩
    obtain ⟨base, hunder⟩ := exists_isUnder hfile default
    rw [underFile_eq_ok_iff.2 ⟨file, hsets, hfile, hunder⟩]
    show Overrides.ofEnvironment env >>= (fun o => base.apply o .environment) = .ok config
    rw [ofEnvironment_eq_ok_iff.2 henv]
    exact apply_eq_ok_iff.2 ⟨henvironment, hunder.isLayered_iff.1 hlayered⟩

theorem fault?_load :
    fault? (load files env) =
      ((files.find? (filePath env)).bind fun _ => fault? (ofFile files (filePath env))).or
        (fault? (ofEnvironment env)) := by
  have henvironment : ∀ base : Config,
      fault? (Overrides.ofEnvironment env >>= fun o => base.apply o .environment) = fault? (ofEnvironment env) := by
    intro base
    rw [ofEnvironment]
    cases Overrides.ofEnvironment env with
    | error e => rfl
    | ok o => exact fault?_apply base default o .environment
  rw [load_eq, underFile, ofFile]
  cases hfile : Overrides.ofFile files (filePath env) with
  | error e =>
    cases hnode : files.find? (filePath env) with
    | none =>
      rw [ofFile_eq_none_iff.2 hnode] at hfile
      cases hfile
    | some node => rfl
  | ok found =>
    cases found with
    | none =>
      rw [ofFile_eq_none_iff.1 hfile]
      exact henvironment default
    | some o =>
      obtain ⟨content, -, hnode, -⟩ := ofFile_eq_some_iff.1 hfile
      rw [hnode]
      show fault? (default.apply o .file >>= _) = (fault? (default.apply o .file)).or _
      cases default.apply o .file with
      | error e => rfl
      | ok base => exact henvironment base

/-- A file that is there sets one thing only. -/
theorem eq_of_holds {file : Overrides} (hholds : files.Holds path o) (hsets : files.Sets path file) :
    o = file := by
  have hfile := ofFile_eq_some_iff.2 hholds
  obtain ⟨habsent, -⟩ | hother := hsets
  · cases (ofFile_eq_none_iff.2 habsent).symm.trans hfile
  · exact Option.some.inj (Except.ok.inj (hfile.symm.trans (ofFile_eq_some_iff.2 hother)))

end Reading

section Usable

theorem isUsable_of_ofEnvironment (h : ofEnvironment env = .ok config) : config.IsUsable := by
  obtain ⟨o, -, h⟩ := exists_of_bind_eq_ok h
  exact isUsable_default.apply h

theorem isUsable_of_ofFile (h : ofFile files path = .ok config) : config.IsUsable := by
  obtain ⟨found, -, h⟩ := exists_of_bind_eq_ok h
  cases found with
  | none => cases h
  | some o => exact isUsable_default.apply h

theorem isUsable_of_load (h : load files env = .ok config) : config.IsUsable := by
  rw [load_eq] at h
  obtain ⟨base, hbase, h⟩ := exists_of_bind_eq_ok h
  obtain ⟨o, -, h⟩ := exists_of_bind_eq_ok h
  obtain ⟨found, -, hbase⟩ := exists_of_bind_eq_ok hbase
  cases found with
  | none =>
    obtain rfl := Except.ok.inj hbase
    exact isUsable_default.apply h
  | some file => exact (isUsable_default.apply hbase).apply h

end Usable

/-- Loading succeeds exactly if the file is absent or what it sets is readable and valid, and what the environment sets
is too; then each setting is that of the topmost layer that has it. A file that is at fault is at fault whatever the
environment sets over it, and its fault is the one that is reported. What is loaded, from both layers or from one,
can be used without another check. -/
theorem load_layered (files : Files) (env : Environment) :
    (∀ config, load files env = .ok config ↔ ∃ file environment, files.Sets (filePath env) file ∧
        env.Sets environment ∧ file.IsValid ∧ environment.IsValid ∧ config.IsLayered environment file) ∧
      (∀ file, files.Holds (filePath env) file → ¬file.IsValid → ∃ e, load files env = .error e) ∧
        fault? (load files env) =
          ((files.find? (filePath env)).bind fun _ => fault? (ofFile files (filePath env))).or
            (fault? (ofEnvironment env)) ∧
          ∀ config, (load files env = .ok config ∨ ofEnvironment env = .ok config ∨
            ∃ path, ofFile files path = .ok config) → config.IsUsable := by
  refine ⟨fun _ => load_eq_ok_iff, ?_, fault?_load, ?_⟩
  · intro file hholds hinvalid
    cases hload : load files env with
    | error e => exact ⟨e, rfl⟩
    | ok config =>
      obtain ⟨other, -, hsets, -, hvalid, -⟩ := load_eq_ok_iff.1 hload
      obtain rfl := eq_of_holds hholds hsets
      exact absurd hvalid hinvalid
  · rintro config (h | h | ⟨path, h⟩)
    · exact isUsable_of_load h
    · exact isUsable_of_ofEnvironment h
    · exact isUsable_of_ofFile h

/-- What a file sets: a path, both sizes and a format. -/
def overriddenText : String :=
  "db_path = \"a.db\"\nflush_every = 64\nreader_pool_size = 9\nlog_format = \"json\"\n"

def overriddenFile : Files := ⟨"r", [(["c.toml"], .file overriddenText.toUTF8.data.toList)]⟩

/-- Over that file, an empty path and another size for flushing. -/
def overridingEnvironment : Environment where
  configPath := some "c.toml"
  dbPath := some ""
  flushEvery := some "+7"
  readerPoolSize := none
  logFilter := none
  logFormat := none
  configHome := none
  home := none

/-- The path and one size are those of the environment, the other size and the format those of the file. -/
theorem load_layered_overridden :
    (load overriddenFile overridingEnvironment).toOption = some ⟨none, 7, 9, "info", .json⟩ ∧
      IsUsable ⟨none, 7, 9, "info", .json⟩ := by
  have hload : (load overriddenFile overridingEnvironment).toOption = some ⟨none, 7, 9, "info", .json⟩ := by
    decide +kernel
  refine ⟨hload, (load_layered overriddenFile overridingEnvironment).2.2.2 _ (.inl ?_)⟩
  cases hresult : load overriddenFile overridingEnvironment with
  | error e =>
    rw [hresult] at hload
    cases hload
  | ok config =>
    rw [hresult] at hload
    exact congrArg Except.ok (Option.some.inj hload)

end Config
end Telemetry
