import IntentGateway.Proofs.Schema.Decoding
import IntentGateway.Settings.Basic

/-! # A variable of the environment

Each variable of an environment sets one of the settings. The URL of the database may be any text:
with a variable for it an environment gives the settings that it gives without, except for the URL
(`Settings.ofEnvironment_cons_url`).
-/

namespace IntentGateway

namespace Settings

open Schema

/-- The variable of the URL. -/
def urlVariable : String := "DATABASE_URL"

variable [Nesting]

/-- A variable of no list does not change the lists. -/
theorem listsOf_cons {name : String} {names : List String} (h : name ∉ names) (text : String)
    (environment : List (String × String)) :
    listsOf ((name, text) :: environment) names = listsOf environment names := by
  induction names with
  | nil => rfl
  | cons other names ih =>
    obtain ⟨hother, hnames⟩ := not_or.mp (mt List.mem_cons.mpr h)
    have hlookup : ((name, text) :: environment).lookup other = environment.lookup other := by
      rw [List.lookup_cons, beq_eq_false_iff_ne.mpr (Ne.symm hother)]
    rw [listsOf, listsOf, hlookup, ih hnames]

/-- Lists are found under the names that were asked for. -/
theorem key_of_mem_listsOf {environment : List (String × String)} {names : List String}
    {lists : Value.Entries} (h : listsOf environment names = .ok lists) :
    ∀ entry ∈ lists, ∃ name ∈ names, entry.1 = .text name := by
  induction names generalizing lists with
  | nil =>
    cases h
    exact nofun
  | cons name names ih =>
    have hlater {others : Value.Entries} (hothers : listsOf environment names = .ok others) :
        ∀ entry ∈ others, ∃ other ∈ name :: names, entry.1 = .text other := by
      intro entry hentry
      obtain ⟨other, hmem, hkey⟩ := ih hothers entry hentry
      exact ⟨other, List.mem_cons_of_mem _ hmem, hkey⟩
    rw [listsOf] at h
    -- whether the variable is set or not, the lists of the others follow
    split at h
    all_goals
      obtain ⟨list, -, h⟩ := Failure.bind_eq_ok h
      obtain ⟨others, hothers, h⟩ := Failure.bind_eq_ok h
      cases list with
      | none =>
        cases h
        exact hlater hothers
      | some v =>
        cases h
        exact List.forall_mem_cons.mpr ⟨⟨name, List.mem_cons_self, rfl⟩, hlater hothers⟩

omit [Nesting] in
/-- A further entry matters to no other key than its own. -/
theorem defaulted_append_cons {α : Type} {lists texts : Value.Entries} {key other : String}
    (h : key ≠ other) (v : Value) (default : α) (decode : Decoder α) :
    defaulted (lists ++ (.text key, v) :: texts) (other : Field) default decode
      = defaulted (lists ++ texts) (other : Field) default decode := by
  have hfind : Value.Entries.find? (lists ++ (.text key, v) :: texts) other
      = Value.Entries.find? (lists ++ texts) other := by
    rw [Value.Entries.find?, Value.Entries.find?, List.find?_append, List.find?_append,
      List.find?_cons_of_neg (by simpa using h)]
  rw [defaulted, defaulted, Field.find?_key, Field.find?_key, hfind]

omit [Nesting] in
/-- Settings under values with a URL are those under the others, with that URL. -/
theorem ofValues_append_cons {lists : Value.Entries}
    (hlists : ∀ entry ∈ lists, entry.1 ≠ .text urlVariable) (url : String)
    (environment : List (String × String)) :
    ofValues (lists ++ (.text urlVariable, .str url) :: textsOf environment)
      = (ofValues (lists ++ textsOf environment)).map ({ · with databaseUrl := url }) := by
  have hnone : List.find? (fun entry => entry.1 == .text urlVariable) lists = none := by
    simpa using hlists
  have hgiven : defaulted (lists ++ (.text urlVariable, .str url) :: textsOf environment)
      (urlVariable : Field) standard.databaseUrl string = .valid url := by
    refine defaulted_key_eq_valid.mpr (Or.inl ⟨.str url, ?_, rfl⟩)
    rw [Value.Entries.find?, List.find?_append, hnone, Option.none_or,
      List.find?_cons_of_pos (by simp)]
    rfl
  -- whatever URL was there before, it was a text and has been accepted
  obtain ⟨before, hbefore⟩ : ∃ before, defaulted (lists ++ textsOf environment)
      (urlVariable : Field) standard.databaseUrl string = .valid before := by
    cases hfind : Value.Entries.find? (lists ++ textsOf environment) urlVariable with
    | none => exact ⟨_, defaulted_key_eq_valid.mpr (Or.inr ⟨hfind, rfl⟩)⟩
    | some v =>
      rw [Value.Entries.find?, List.find?_append, hnone, Option.none_or] at hfind
      obtain ⟨entry, hentry, rfl⟩ := Option.map_eq_some_iff.mp hfind
      obtain ⟨given, -, rfl⟩ := List.mem_map.mp (List.mem_of_find?_eq_some hentry)
      refine ⟨given.2, defaulted_key_eq_valid.mpr (Or.inl ⟨.str given.2, ?_, rfl⟩)⟩
      rw [Value.Entries.find?, List.find?_append, hnone, Option.none_or, hentry]
      rfl
  rw [urlVariable] at hgiven hbefore ⊢
  rw [ofValues, ofValues, hgiven, hbefore]
  simp (disch := decide) only [Checked.map_seq, defaulted_append_cons]
  rfl

/-- To configure a URL sets the URL and nothing else, and no URL is refused. -/
theorem ofEnvironment_cons_url (url : String) (environment : List (String × String)) :
    ofEnvironment ((urlVariable, url) :: environment)
      = (ofEnvironment environment).map ({ · with databaseUrl := url }) := by
  have hlists : listsOf ((urlVariable, url) :: environment) listVariables
      = listsOf environment listVariables := listsOf_cons (by decide) url environment
  have htexts : textsOf ((urlVariable, url) :: environment)
      = (.text urlVariable, .str url) :: textsOf environment := by
    rw [textsOf, List.filter_cons_of_pos rfl]
    rfl
  rw [ofEnvironment, ofEnvironment, valuesOf, valuesOf, hlists, htexts]
  cases hread : listsOf environment listVariables with
  | error e => rfl
  | ok lists =>
    have hkeys : ∀ entry ∈ lists, entry.1 ≠ .text urlVariable := by
      intro entry hentry
      obtain ⟨name, hname, hkey⟩ := key_of_mem_listsOf hread entry hentry
      rw [hkey]
      rintro ⟨⟩
      exact absurd hname (by decide)
    change (ofValues _).toExcept = (ofValues _).toExcept.map _
    rw [ofValues_append_cons hkeys]
    cases ofValues (lists ++ textsOf environment) <;> rfl

end Settings

end IntentGateway
