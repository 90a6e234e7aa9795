import InventoryQuery.Config.Store
import InventoryQuery.Proofs.Files.Frame
import InventoryQuery.Proofs.Toml.Lines

/-!
# Configurations and their text

A text with the lines of some fields, in any order and among lines with other keys, describes the
configuration that has these fields and the defaults for the others, whatever the texts in it hold.
The text of a configuration is the one with the lines of all its fields, so the configuration is
read back from it.
-/

namespace InventoryQuery.Config

open Toml (Assigns Entries IsBare IsLiteral)

/-- The fields of a configuration, of which some may be missing. -/
structure Fields where
  url : Option String := none
  apiVersion : Option String := none
  timeoutSecs : Option Nat := none
  cert : Option String := none
  key : Option String := none
  caCert : Option String := none
  deriving DecidableEq, Repr

/-- The keys of configurations. -/
def keys : List String := ["url", "api_version", "timeout_secs", "cert", "key", "ca_cert"]

/-- The keys of configurations need no quotation marks. -/
theorem isBare_of_mem_keys : ∀ key ∈ keys, IsBare key := by decide

/-- The pair of a key and a value, if there is one. -/
def given {α : Type} (key : String) (value : Option α) : List (String × α) :=
  (value.map (key, ·)).toList

namespace Fields

/-- The configuration with some fields, and the defaults for the others. -/
def complete (fields : Fields) : Config :=
  let default : Config := {}
  { url := fields.url.getD default.url
    apiVersion := fields.apiVersion.getD default.apiVersion
    timeoutSecs := fields.timeoutSecs.getD default.timeoutSecs
    cert := fields.cert.map RawText.ofText
    key := fields.key.map RawText.ofText
    caCert := fields.caCert.map RawText.ofText }

/-- The keys of some fields, with what the texts and the number of seconds in them are taken to. -/
def pairs {α : Type} (fields : Fields) (ofText : String → α) (ofNumber : Nat → α) :
    List (String × α) :=
  given "url" (fields.url.map ofText) ++
    (given "api_version" (fields.apiVersion.map ofText) ++
      (given "timeout_secs" (fields.timeoutSecs.map ofNumber) ++
        (given "cert" (fields.cert.map ofText) ++
          (given "key" (fields.key.map ofText) ++ given "ca_cert" (fields.caCert.map ofText)))))

/-- The lines of some fields as they are written. -/
def lines (fields : Fields) : List (String × List Char) :=
  fields.pairs (fun text => Toml.stringLiteral text.toList) decimalDigits

/-- The entries of some fields. -/
def entries (fields : Fields) : Entries :=
  fields.pairs Toml.Item.string fun seconds => Toml.Item.integer seconds

/-- The line of a key with a value. -/
theorem textOf_given_some (key : String) (literal : List Char) :
    Toml.textOf (given key (some literal)) = Toml.line key.toList literal := List.append_nil _

/-- A path with a line is a text that may be missing. -/
theorem exists_given_of_pathLine? {key : String} {path : Option RawText} {line : List Char}
    (h : pathLine? key path = some line) :
    ∃ value : Option String, value.map RawText.ofText = path ∧
      Toml.textOf (given key (value.map fun text => Toml.stringLiteral text.toList)) = line := by
  cases path with
  | none => exact ⟨none, rfl, Option.some.inj h⟩
  | some raw =>
    obtain ⟨text, htext, hline⟩ := Option.map_eq_some_iff.mp h
    rw [RawText.eq_ofText_of_text? htext]
    exact ⟨some text, rfl, (textOf_given_some key _).trans hline⟩

/-- The text of a configuration consists of the lines of all its fields. -/
theorem exists_fields_of_toText? {config : Config} {text : String} (h : config.toText? = some text) :
    ∃ fields : Fields, fields.complete = config ∧
      (∀ seconds ∈ fields.timeoutSecs, seconds ≤ Toml.maxInteger) ∧
      text = String.ofList (Toml.textOf fields.lines) := by
  have happend (first second : List (String × List Char)) :
      Toml.textOf (first ++ second) = Toml.textOf first ++ Toml.textOf second :=
    List.flatMap_append
  simp only [toText?, Option.bind_eq_bind, Option.bind_eq_some_iff, Option.pure_def,
    Option.some.injEq] at h
  obtain ⟨seconds, hseconds, certLine, hcertLine, keyLine, hkeyLine, caCertLine, hcaCertLine, rfl⟩ := h
  obtain ⟨cert, hcert, rfl⟩ := exists_given_of_pathLine? hcertLine
  obtain ⟨key, hkey, rfl⟩ := exists_given_of_pathLine? hkeyLine
  obtain ⟨caCert, hcaCert, rfl⟩ := exists_given_of_pathLine? hcaCertLine
  rw [Toml.naturalLiteral?, Option.ite_none_right_eq_some] at hseconds
  obtain ⟨hle, hdigits⟩ := hseconds
  obtain rfl := Option.some.inj hdigits
  refine ⟨⟨config.url, config.apiVersion, config.timeoutSecs, cert, key, caCert⟩, ?_, ?_, ?_⟩
  · simp [complete, hcert, hkey, hcaCert]
  · rintro seconds ⟨rfl⟩
    exact hle
  · simp only [lines, pairs, happend, textOf_given_some, textLine, Option.map_some,
      List.append_assoc]

/-- The line of a key and a value, if there is one, gives its entry. -/
theorem assigns_given {α : Type} {key : String} (hkey : key ∈ keys) {value : Option α}
    {literal : α → List Char} {item : α → Toml.Item}
    (hliteral : ∀ content ∈ value, IsLiteral (item content) (literal content)) :
    Assigns (given key (value.map literal)) (given key (value.map item)) := by
  cases value with
  | none => exact .nil
  | some content => exact .cons ⟨rfl, isBare_of_mem_keys key hkey, hliteral content rfl⟩ .nil

/-- The lines of some fields give their entries, unless the number of seconds is too great. -/
theorem assigns_lines {fields : Fields}
    (hseconds : ∀ seconds ∈ fields.timeoutSecs, seconds ≤ Toml.maxInteger) :
    Assigns fields.lines fields.entries := by
  have htext (key : String) (hkey : key ∈ keys) (value : Option String) :
      Assigns (given key (value.map fun text => Toml.stringLiteral text.toList))
        (given key (value.map .string)) :=
    assigns_given hkey fun text _ => Toml.isLiteral_string text
  have hnumber : Assigns (given "timeout_secs" (fields.timeoutSecs.map decimalDigits))
      (given "timeout_secs" (fields.timeoutSecs.map fun (seconds : Nat) => .integer seconds)) :=
    assigns_given (by decide) fun seconds hmem => Toml.isLiteral_natural (hseconds seconds hmem)
  have hurl := htext "url" (by decide) fields.url
  have hversion := htext "api_version" (by decide) fields.apiVersion
  have hcert := htext "cert" (by decide) fields.cert
  have hkey := htext "key" (by decide) fields.key
  have hcaCert := htext "ca_cert" (by decide) fields.caCert
  exact List.rel_append hurl (List.rel_append hversion (List.rel_append hnumber
    (List.rel_append hcert (List.rel_append hkey hcaCert))))

/-- The key of a value that may be missing is the only one. -/
theorem keys_given_sublist {α : Type} (key : String) (value : Option α) :
    ((given key value).map Prod.fst).Sublist [key] := by
  cases value with
  | none => exact List.nil_sublist _
  | some text => exact List.Sublist.refl _

/-- Some fields have some of the keys of configurations. -/
theorem keys_entries_sublist (fields : Fields) : (fields.entries.map Prod.fst).Sublist keys := by
  simp only [entries, pairs, List.map_append]
  exact (keys_given_sublist _ _).append ((keys_given_sublist _ _).append
    ((keys_given_sublist _ _).append ((keys_given_sublist _ _).append
      ((keys_given_sublist _ _).append (keys_given_sublist _ _)))))

/-- At its own key a value is found, if it is there, and at another key nothing. -/
theorem find?_given (sought key : String) (value : Option Toml.Item) :
    Keyed.find? sought (given key value) = if key = sought then value else none := by
  cases value with
  | none => simp [given]
  | some value => simp [given, Keyed.find?]

/-- At each key of configurations the field is found that belongs to it. -/
theorem find?_entries (fields : Fields) :
    Keyed.find? "url" fields.entries = fields.url.map .string ∧
      Keyed.find? "api_version" fields.entries = fields.apiVersion.map .string ∧
      Keyed.find? "timeout_secs" fields.entries =
        fields.timeoutSecs.map (fun seconds => .integer seconds) ∧
      Keyed.find? "cert" fields.entries = fields.cert.map .string ∧
      Keyed.find? "key" fields.entries = fields.key.map .string ∧
      Keyed.find? "ca_cert" fields.entries = fields.caCert.map .string := by
  refine ⟨?_, ?_, ?_, ?_, ?_, ?_⟩ <;>
    simp [entries, pairs, Keyed.find?_append, find?_given]

/-- A text is read from the item at its key. -/
theorem textAt?_eq {key : String} {entries : Entries} {value : Option String}
    (h : entries.find? key = value.map .string) (default : String) :
    textAt? key default entries = some (value.getD default) := by
  rw [textAt?, h]
  cases value <;> rfl

/-- A path that may be missing is read from the item at its key. -/
theorem pathAt?_eq {key : String} {entries : Entries} {value : Option String}
    (h : entries.find? key = value.map .string) :
    pathAt? key entries = some (value.map RawText.ofText) := by
  rw [pathAt?, h]
  cases value <;> rfl

/-- A natural number is read from the item at its key. -/
theorem naturalAt?_eq {key : String} {entries : Entries} {value : Option Nat}
    (h : entries.find? key = value.map fun number => .integer number) (default : Nat) :
    naturalAt? key default entries = some (value.getD default) := by
  rw [naturalAt?, h]
  cases value with
  | none => rfl
  | some number => exact if_neg (Int.not_lt.mpr (Int.natCast_nonneg number))

/-- A table in which the same items are found at the keys of configurations as among the entries of
some fields describes the configuration with these fields. -/
theorem ofEntries?_eq {fields : Fields} {table : Entries}
    (h : ∀ key ∈ keys, table.find? key = fields.entries.find? key) :
    ofEntries? table = some fields.complete := by
  have hfind {key : String} {item : Option Toml.Item} (hkey : key ∈ keys)
      (hitem : Keyed.find? key fields.entries = item) : table.find? key = item :=
    (h key hkey).trans ((Toml.Entries.find?_eq_find? key fields.entries).trans hitem)
  obtain ⟨hurl, hversion, hseconds, hcert, hkey, hcaCert⟩ := fields.find?_entries
  simp only [ofEntries?, textAt?_eq (hfind (by decide) hurl),
    textAt?_eq (hfind (by decide) hversion), naturalAt?_eq (hfind (by decide) hseconds),
    pathAt?_eq (hfind (by decide) hcert), pathAt?_eq (hfind (by decide) hkey),
    pathAt?_eq (hfind (by decide) hcaCert)]
  rfl

end Fields

/-- Lines with other keys than those of configurations, each with a value of any kind. -/
structure AreOthers (others : List (String × List Char)) : Prop where
  isBare : ∀ other ∈ others, IsBare other.1
  not_mem_keys : ∀ other ∈ others, other.1 ∉ keys
  isSome_itemOf? : ∀ other ∈ others, (Toml.itemOf? other.2).isSome
  nodup_keys : (others.map Prod.fst).Nodup

/-- Whether lines have other keys, and values, is found out by reading the values. -/
instance (others : List (String × List Char)) : Decidable (AreOthers others) :=
  decidable_of_iff
    ((∀ other ∈ others, IsBare other.1) ∧ (∀ other ∈ others, other.1 ∉ keys) ∧
      (∀ other ∈ others, (Toml.itemOf? other.2).isSome) ∧ (others.map Prod.fst).Nodup)
    ⟨fun h => ⟨h.1, h.2.1, h.2.2.1, h.2.2.2⟩,
      fun h => ⟨h.isBare, h.not_mem_keys, h.isSome_itemOf?, h.nodup_keys⟩⟩

/-- Lines with other keys give entries. -/
theorem AreOthers.exists_assigns {others : List (String × List Char)} (h : AreOthers others) :
    ∃ entries, Assigns others entries := by
  refine ⟨others.map fun other => (other.1, (Toml.itemOf? other.2).getD default),
    List.forall₂_map_right_iff.mpr (List.forall₂_same.mpr fun other hother => ?_)⟩
  obtain ⟨item, hitem⟩ := Option.isSome_iff_exists.mp (h.isSome_itemOf? other hother)
  refine ⟨rfl, h.isBare other hother, ?_⟩
  rw [hitem]
  exact Toml.isLiteral_of_itemOf? hitem

/-- A text with the lines of some fields, in any order and among lines with other keys, describes
the configuration with these fields. -/
theorem ofText?_of_lines {fields : Fields}
    (hseconds : ∀ seconds ∈ fields.timeoutSecs, seconds ≤ Toml.maxInteger)
    {others lines : List (String × List Char)} (hothers : AreOthers others)
    (horder : lines.Perm (fields.lines ++ others)) :
    ofText? (String.ofList (Toml.textOf lines)) = some fields.complete := by
  obtain ⟨entries, hentries⟩ := hothers.exists_assigns
  have hkeys : entries.map Prod.fst = others.map Prod.fst := hentries.keys_eq.symm
  have hforeign : ∀ key ∈ entries.map Prod.fst, key ∉ keys := by
    rw [hkeys]
    exact List.forall_mem_map.mpr hothers.not_mem_keys
  have hassigns : Assigns (fields.lines ++ others) (fields.entries ++ entries) :=
    List.rel_append (Fields.assigns_lines hseconds) hentries
  have hdistinct : ((fields.entries ++ entries).map Prod.fst).Nodup := by
    rw [List.map_append]
    have hown := fields.keys_entries_sublist
    refine List.Nodup.append (hown.nodup (by decide)) (hkeys ▸ hothers.nodup_keys) ?_
    exact fun key hmem hother => hforeign key hother (hown.subset hmem)
  obtain ⟨table, hparse, hfind⟩ := hassigns.exists_parse?_of_perm hdistinct horder
  rw [ofText?, hparse]
  refine Fields.ofEntries?_eq fun key hkey => ?_
  have hnone : Entries.find? key entries = none :=
    Toml.Entries.find?_eq_none fun hmem => hforeign key hmem hkey
  rw [hfind, Toml.Entries.find?_eq_find?, Keyed.find?_append, ← Toml.Entries.find?_eq_find?,
    ← Toml.Entries.find?_eq_find?, hnone, Option.or_none]

/-- A configuration is read back from its text. -/
theorem ofText?_of_toText? {config : Config} {text : String} (h : config.toText? = some text) :
    ofText? text = some config := by
  obtain ⟨fields, rfl, hseconds, rfl⟩ := Fields.exists_fields_of_toText? h
  have hothers : AreOthers [] := by decide
  exact ofText?_of_lines hseconds hothers (List.Perm.of_eq (List.append_nil _).symm)

/-- A configuration is loaded from a file with a text that describes it. -/
theorem loadFrom_of_readText {system : Files.System} {path : RawText} {text : String}
    {config : Config} (hread : system.readText (.ofRaw path) = .ok text)
    (htext : ofText? text = some config) :
    loadFrom system path = .ok config := by
  rw [loadFrom, if_pos (Files.System.exists_of_readText hread)]
  simp only [hread, htext]

/-- From a file with the lines of some fields, in any order and among lines with other keys, the
configuration with these fields is loaded. -/
theorem loadFrom_of_lines {system : Files.System} {path : RawText} {fields : Fields}
    (hseconds : ∀ seconds ∈ fields.timeoutSecs, seconds ≤ 2 ^ 63 - 1)
    {others lines : List (String × List Char)} (hothers : AreOthers others)
    (horder : lines.Perm (fields.lines ++ others))
    (hread : system.readText (.ofRaw path) = .ok (String.ofList (Toml.textOf lines))) :
    loadFrom system path = .ok fields.complete :=
  loadFrom_of_readText hread (ofText?_of_lines hseconds hothers horder)

/-- Some fields, with texts on several lines. -/
def someFields : Fields where
  apiVersion := some "\"'''\n\\"
  timeoutSecs := some (2 ^ 63 - 1)
  key := some "\n'\r\n"

/-- Lines with keys that mean nothing here, and values of several kinds. -/
def otherLines : List (String × List Char) :=
  [("debug", "true".toList), ("2-way", "[ 'a', [0x1F, -1.5e3], # more\n  ]".toList),
    ("_", "\x7b since = 1979-05-27T07:32:00Z, x.y = \"\" \x7d".toList)]

/-- The fields are loaded from their lines behind the other ones in backward order. -/
theorem loadFrom_of_lines_reversed :
    let lines : List (String × List Char) := (someFields.lines ++ otherLines).reverse
    let text : String := String.ofList (Toml.textOf lines)
    let system : Files.System := { entries := [(["pdq.toml"], .file text.toUTF8)] }
    AreOthers otherLines ∧ system.readText (.ofRaw "pdq.toml") = .ok text ∧
      loadFrom system "pdq.toml" =
        .ok { apiVersion := "\"'''\n\\", timeoutSecs := 2 ^ 63 - 1, key := some "\n'\r\n" } := by
  intro lines text system
  have hothers : AreOthers otherLines := by decide +kernel
  have hplace : system.resolve (.ofRaw "pdq.toml") = .ok ["pdq.toml"] := rfl
  have hread : system.readText (.ofRaw "pdq.toml") = .ok text :=
    Files.System.readText_eq_ok hplace rfl rfl
  have hseconds : ∀ seconds ∈ someFields.timeoutSecs, seconds ≤ 2 ^ 63 - 1 := by
    rintro seconds ⟨rfl⟩
    exact Nat.le_refl _
  exact ⟨hothers, hread, loadFrom_of_lines hseconds hothers (List.reverse_perm _) hread⟩

end InventoryQuery.Config
