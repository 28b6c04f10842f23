import Telemetry.Config.Basic
import Telemetry.Proofs.Json.Part

/-! What one layer does to a configuration: it is accepted exactly if what it sets is valid, whatever is below it, and
it keeps a configuration usable. -/
namespace Telemetry

open Json (exists_of_bind_eq_ok)

/-- The formats a text names, whatever white space is around the name and whatever the case of its letters. -/
def LogFormat.Names (text : String) : LogFormat → Prop
  | .compact => LogFormat.fold text = "compact" ∨ LogFormat.fold text = "text"
  | .json => LogFormat.fold text = "json"

/-- The format that is chosen by a text that may be missing. -/
def LogFormat.Chosen (otherwise : LogFormat) : Option String → LogFormat → Prop
  | none, f => f = otherwise
  | some text, f => Names text f

/-- No size that a layer sets is zero, and the log format it sets is known. -/
structure Overrides.IsValid (o : Overrides) : Prop where
  flushEvery : o.flushEvery ≠ some 0
  readerPoolSize : o.readerPoolSize ≠ some 0
  logFormat : ∀ text ∈ o.logFormat, ∃ f, LogFormat.Names text f

/-- A configuration that can be used as it is: its sizes are not zero, its path is none or not empty, and whatever is
found at the path, opening the store is not refused for an invalid argument. -/
structure Config.IsUsable (config : Config) : Prop where
  flushEvery_pos : 0 < config.flushEvery
  readerPoolSize_pos : 0 < config.readerPoolSize
  dbPath_ne : config.dbPath ≠ some ""
  opens : ∀ find detail, config.openStore find ≠ .error (.invalidArgument detail)

/-- The failure of a result. -/
def fault? {α : Type} : Except Failure α → Option Failure
  | .ok _ => none
  | .error e => some e

namespace Config

variable {base config : Config} {o : Overrides} {source : Source}

/-- The configuration under a layer, setting by setting. -/
structure IsUnder (base : Config) (o : Overrides) (config : Config) : Prop where
  dbPath : config.dbPath = (o.dbPath.map fun path => if path = "" then none else some path).getD base.dbPath
  flushEvery : config.flushEvery = o.flushEvery.getD base.flushEvery
  readerPoolSize : config.readerPoolSize = o.readerPoolSize.getD base.readerPoolSize
  logFilter : config.logFilter = o.logFilter.getD base.logFilter
  logFormat : LogFormat.Chosen base.logFormat o.logFormat config.logFormat

theorem size_eq_ok_iff {current n : Nat} {name : String} {value : Option Nat} :
    size current name source value = .ok n ↔ value ≠ some 0 ∧ n = value.getD current := by
  match value with
  | none => exact ⟨fun h => ⟨nofun, (Except.ok.inj h).symm⟩, fun h => congrArg Except.ok h.2.symm⟩
  | some 0 => exact ⟨nofun, fun h => absurd rfl h.1⟩
  | some (m + 1) => exact ⟨fun h => ⟨nofun, (Except.ok.inj h).symm⟩, fun h => congrArg Except.ok h.2.symm⟩

theorem parse_eq_ok_iff {text : String} {f : LogFormat} : LogFormat.parse text = .ok f ↔ LogFormat.Names text f := by
  unfold LogFormat.parse
  dsimp only
  by_cases hcompact : LogFormat.fold text = "compact" ∨ LogFormat.fold text = "text"
  · rw [if_pos hcompact]
    cases f with
    | compact => exact iff_of_true rfl hcompact
    | json =>
      refine iff_of_false nofun fun hjson : LogFormat.fold text = "json" => ?_
      rw [hjson] at hcompact
      exact absurd hcompact (by decide)
  · rw [if_neg hcompact]
    by_cases hjson : LogFormat.fold text = "json"
    · rw [if_pos hjson]
      cases f with
      | compact => exact iff_of_false nofun hcompact
      | json => exact iff_of_true rfl hjson
    · rw [if_neg hjson]
      cases f with
      | compact => exact iff_of_false nofun hcompact
      | json => exact iff_of_false nofun hjson

theorem format_eq_ok_iff {current f : LogFormat} {text : Option String} :
    format current source text = .ok f ↔ LogFormat.Chosen current text f := by
  cases text with
  | none => exact ⟨fun h => (Except.ok.inj h).symm, fun h => congrArg Except.ok h.symm⟩
  | some text =>
    rw [LogFormat.Chosen, ← parse_eq_ok_iff, format]
    cases LogFormat.parse text with
    | ok g => exact Iff.rfl
    | error e => exact iff_of_false nofun nofun

theorem dbPath_eq (o : Overrides) (base : Option String) :
    (match o.dbPath with
      | none => base
      | some "" => none
      | some path => some path) = (o.dbPath.map fun path => if path = "" then none else some path).getD base := by
  cases o.dbPath with
  | none => rfl
  | some path =>
    by_cases h : path = ""
    · subst h
      rfl
    · simp [h]

theorem apply_eq_ok_iff : base.apply o source = .ok config ↔ o.IsValid ∧ IsUnder base o config := by
  constructor
  · intro h
    obtain ⟨flushEvery, hflush, h⟩ := exists_of_bind_eq_ok h
    obtain ⟨readerPoolSize, hpool, h⟩ := exists_of_bind_eq_ok h
    obtain ⟨logFormat, hformat, h⟩ := exists_of_bind_eq_ok h
    obtain rfl := Except.ok.inj h
    obtain ⟨hflush_ne, rfl⟩ := size_eq_ok_iff.1 hflush
    obtain ⟨hpool_ne, rfl⟩ := size_eq_ok_iff.1 hpool
    have hchosen := format_eq_ok_iff.1 hformat
    refine ⟨⟨hflush_ne, hpool_ne, ?_⟩, ⟨dbPath_eq o base.dbPath, rfl, rfl, rfl, hchosen⟩⟩
    rintro text htext
    rw [htext] at hchosen
    exact ⟨logFormat, hchosen⟩
  · rintro ⟨hvalid, hunder⟩
    have hflush : size base.flushEvery "flush_every" source o.flushEvery = .ok config.flushEvery :=
      size_eq_ok_iff.2 ⟨hvalid.flushEvery, hunder.flushEvery⟩
    have hpool : size base.readerPoolSize "reader_pool_size" source o.readerPoolSize = .ok config.readerPoolSize :=
      size_eq_ok_iff.2 ⟨hvalid.readerPoolSize, hunder.readerPoolSize⟩
    have hformat : format base.logFormat source o.logFormat = .ok config.logFormat :=
      format_eq_ok_iff.2 hunder.logFormat
    have hpath := (dbPath_eq o base.dbPath).trans hunder.dbPath.symm
    rw [apply, hflush, hpool, hformat, ← hunder.logFilter]
    exact congrArg (fun path => Except.ok { config with dbPath := path }) hpath

theorem names_unique {text : String} {f g : LogFormat} (hf : LogFormat.Names text f)
    (hg : LogFormat.Names text g) : f = g :=
  Except.ok.inj ((parse_eq_ok_iff.2 hf).symm.trans (parse_eq_ok_iff.2 hg))

/-- A layer over one that chooses a format by itself. -/
theorem chosen_or_iff {otherwise lower f : LogFormat} {a b : Option String}
    (h : LogFormat.Chosen otherwise b lower) :
    LogFormat.Chosen otherwise (a.or b) f ↔ LogFormat.Chosen lower a f := by
  cases a with
  | some text => rfl
  | none =>
    rw [Option.none_or]
    constructor
    · intro hf
      cases b with
      | none => exact hf.trans (h : lower = otherwise).symm
      | some text => exact names_unique hf h
    · rintro (rfl : f = lower)
      exact h

theorem filter_ne_empty (path : Option String) :
    path.filter (· ≠ "") = (path.map fun path => if path = "" then none else some path).getD none := by
  cases path with
  | none => rfl
  | some path => by_cases h : path = "" <;> simp [h]

theorem fault?_bind {α β : Type} {x y : Except Failure α} {f g : α → Except Failure β} (h : fault? x = fault? y)
    (hnext : ∀ a b, fault? (f a) = fault? (g b)) : fault? (x >>= f) = fault? (y >>= g) := by
  cases x with
  | ok a =>
    cases y with
    | ok b => exact hnext a b
    | error e => cases h
  | error e =>
    cases y with
    | ok b => cases h
    | error e' => exact h

/-- What is wrong with a layer does not depend on what is below it. -/
theorem fault?_apply (base lower : Config) (o : Overrides) (source : Source) :
    fault? (base.apply o source) = fault? (lower.apply o source) := by
  have hsize : ∀ (a b : Nat) (name : String) (value : Option Nat),
      fault? (size a name source value) = fault? (size b name source value) := by
    intro a b name value
    unfold size
    split <;> rfl
  have hformat : fault? (format base.logFormat source o.logFormat) = fault? (format lower.logFormat source o.logFormat) := by
    cases o.logFormat with
    | none => rfl
    | some text => rfl
  exact fault?_bind (hsize _ _ _ _) fun _ _ => fault?_bind (hsize _ _ _ _) fun _ _ => fault?_bind hformat fun _ _ => rfl

section Usable

theorem openStore_ne (h : 0 < config.flushEvery) (find : String → Store.Found) (detail : String) :
    config.openStore find ≠ .error (.invalidArgument detail) := by
  have hstart : ∀ path tables, Store.start path config.flushEvery tables =
      .ok ⟨path, config.flushEvery, h, true, tables⟩ := fun _ _ => dif_pos h
  unfold openStore
  cases config.dbPath with
  | none =>
    rw [Store.openMemory, hstart]
    nofun
  | some path =>
    simp only [Store.openFile, hstart]
    split
    · nofun
    · cases find path <;> nofun

theorem isUsable_default : default.IsUsable := ⟨by decide, by decide, nofun, openStore_ne (by decide)⟩

theorem getD_pos {value : Option Nat} {n : Nat} (hvalue : value ≠ some 0) (hn : 0 < n) : 0 < value.getD n := by
  match value with
  | none => exact hn
  | some 0 => exact absurd rfl hvalue
  | some (m + 1) => exact Nat.succ_pos m

/-- A valid layer keeps a configuration usable. -/
theorem IsUsable.apply (hbase : base.IsUsable) (h : base.apply o source = .ok config) : config.IsUsable := by
  obtain ⟨hvalid, hunder⟩ := apply_eq_ok_iff.1 h
  have hflush : 0 < config.flushEvery := by
    rw [hunder.flushEvery]
    exact getD_pos hvalid.flushEvery hbase.flushEvery_pos
  refine ⟨hflush, ?_, ?_, openStore_ne hflush⟩
  · rw [hunder.readerPoolSize]
    exact getD_pos hvalid.readerPoolSize hbase.readerPoolSize_pos
  · rw [hunder.dbPath]
    cases o.dbPath with
    | none => exact hbase.dbPath_ne
    | some path => by_cases hpath : path = "" <;> simp [hpath]

end Usable

end Config
end Telemetry
