import IntentGateway.Proofs.Settings.Environment
import IntentGateway.Proofs.Text.Replace

/-! # One database under every form of its URL

The URL of a database of a known kind begins with one of a few schemes. The form with an
asynchronous driver depends on the kind and on what follows the scheme only
(`DatabaseUrl.async_append`), and so does the form without a driver (`DatabaseUrl.plain_append`),
although that replaces schemes with a driver wherever they occur: no scheme begins inside another
one, so what follows is rewritten as a text of its own. All other URLs are left as they are by the
first form. So it does not matter in which form a URL is configured
(`DatabaseUrl.names_one_database`).
-/

namespace IntentGateway

namespace DatabaseUrl

/-! ## The forms of a URL -/

/-- The kinds of database that a driver is known for. -/
inductive Kind where
  | postgres
  | sqlite
  deriving DecidableEq

namespace Kind

/-- The scheme with an asynchronous driver. -/
def asyncScheme : Kind → String
  | .postgres => "postgresql+asyncpg://"
  | .sqlite => "sqlite+aiosqlite://"

/-- The scheme without a driver. -/
def plainScheme : Kind → String
  | .postgres => "postgresql://"
  | .sqlite => "sqlite://"

/-- The schemes that a URL may be configured with. -/
def schemes : Kind → List String
  | .postgres => ["postgresql+asyncpg://", "postgresql://", "postgres://"]
  | .sqlite => ["sqlite+aiosqlite://", "sqlite://"]

theorem asyncScheme_mem_schemes (kind : Kind) : kind.asyncScheme ∈ kind.schemes := by
  cases kind <;> decide

end Kind

/-- Behind the scheme of a URL, all schemes with a driver are replaced. -/
def withoutDrivers (text : List Char) : List Char :=
  plainSchemes.foldl (fun text scheme => Text.replaceAll scheme.1.toList scheme.2.toList text) text

/-! ## The form with a driver -/

/-- The first scheme that a URL begins with is replaced. -/
theorem replaceScheme_append (before : List (String × String)) {after : List (String × String)}
    {scheme : String × String}
    (h : ∀ other ∈ before, Text.Diverge other.1.toList scheme.1.toList) (rest : List Char) :
    replaceScheme (before ++ scheme :: after) (scheme.1.toList ++ rest)
      = scheme.2.toList ++ rest := by
  have hfind : (before ++ scheme :: after).find?
      (fun other => (Text.dropStart? other.1.toList (scheme.1.toList ++ rest)).isSome)
        = some scheme := by
    have hbefore : before.find?
        (fun other => (Text.dropStart? other.1.toList (scheme.1.toList ++ rest)).isSome)
          = none := by
      refine List.find?_eq_none.mpr fun other hother hbegins => ?_
      exact (h other hother).not_prefix_append rest (Text.isSome_dropStart?_iff.mp hbegins)
    rw [List.find?_append, hbefore, Option.none_or, List.find?_cons_of_pos]
    exact Text.isSome_dropStart?_iff.mpr (List.prefix_append _ _)
  rw [replaceScheme, hfind]
  exact Text.replaceStart_append _ _ rest

/-- A URL that begins with none of the schemes is left as it is. -/
theorem replaceScheme_of_diverge {schemes : List (String × String)} {front : List Char}
    (h : ∀ scheme ∈ schemes, Text.Diverge scheme.1.toList front) (rest : List Char) :
    replaceScheme schemes (front ++ rest) = front ++ rest := by
  have hfind : schemes.find?
      (fun scheme => (Text.dropStart? scheme.1.toList (front ++ rest)).isSome) = none := by
    refine List.find?_eq_none.mpr fun scheme hscheme hbegins => ?_
    exact (h scheme hscheme).not_prefix_append rest (Text.isSome_dropStart?_iff.mp hbegins)
  rw [replaceScheme, hfind]

/-- The form with a driver has the driver of the kind, and the rest of the URL. -/
theorem async_append {kind : Kind} {scheme : String} (h : scheme ∈ kind.schemes)
    (rest : String) : async (scheme ++ rest) = kind.asyncScheme ++ rest := by
  have hreplace : replaceScheme asyncSchemes (scheme.toList ++ rest.toList)
      = kind.asyncScheme.toList ++ rest.toList := by
    cases kind with
    | postgres =>
      simp only [Kind.schemes, List.mem_cons, List.not_mem_nil, or_false] at h
      obtain rfl | rfl | rfl := h
      · exact replaceScheme_of_diverge (by decide) _
      · exact replaceScheme_append [] nofun _
      · exact replaceScheme_append (asyncSchemes.take 1) (by decide) _
    | sqlite =>
      simp only [Kind.schemes, List.mem_cons, List.not_mem_nil, or_false] at h
      obtain rfl | rfl := h
      · exact replaceScheme_of_diverge (by decide) _
      · exact replaceScheme_append (asyncSchemes.take 2) (by decide) _
  rw [async, String.toList_append, hreplace, ← String.toList_append, String.ofList_toList]

/-- All URLs whose form with a driver is another one are of a known kind. -/
theorem exists_kind_or_async_eq (url : String) :
    (∃ kind : Kind, ∃ scheme ∈ kind.schemes, ∃ rest, url = scheme ++ rest) ∨ async url = url := by
  cases hfind : asyncSchemes.find?
      fun scheme => (Text.dropStart? scheme.1.toList url.toList).isSome with
  | none =>
    right
    rw [async, replaceScheme, hfind, String.ofList_toList]
  | some scheme =>
    left
    have hkind : ∀ scheme ∈ asyncSchemes, ∃ kind : Kind, scheme.1 ∈ kind.schemes := by
      intro scheme hscheme
      simp only [asyncSchemes, List.mem_cons, List.not_mem_nil, or_false] at hscheme
      obtain rfl | rfl | rfl := hscheme
      · exact ⟨.postgres, by decide⟩
      · exact ⟨.postgres, by decide⟩
      · exact ⟨.sqlite, by decide⟩
    obtain ⟨kind, hmem⟩ := hkind scheme (List.mem_of_find?_eq_some hfind)
    have hbegins : (Text.dropStart? scheme.1.toList url.toList).isSome = true := by
      simpa using List.find?_some hfind
    obtain ⟨rest, hrest⟩ := Text.isSome_dropStart?_iff.mp hbegins
    refine ⟨kind, scheme.1, hmem, String.ofList rest, ?_⟩
    rw [← String.ofList_toList (s := url), ← hrest, String.ofList_append, String.ofList_toList]

/-! ## The form without a driver -/

/-- Behind a scheme of a kind, schemes are replaced as in a text of its own. -/
theorem withoutDrivers_append {kind : Kind} {scheme : String}
    (h : scheme = kind.asyncScheme ∨ scheme = kind.plainScheme) (rest : List Char) :
    withoutDrivers (scheme.toList ++ rest) = kind.plainScheme.toList ++ withoutDrivers rest := by
  simp only [withoutDrivers, plainSchemes, List.foldl_cons, List.foldl_nil]
  cases kind with
  | postgres =>
    obtain rfl | rfl := h
    · rw [Kind.asyncScheme, Text.replaceAll_part_append _ (by decide),
        Text.replaceAll_append_of_lacks _ (by decide), Kind.plainScheme]
    · rw [Kind.plainScheme, Text.replaceAll_append_of_lacks _ (by decide),
        Text.replaceAll_append_of_lacks _ (by decide)]
  | sqlite =>
    obtain rfl | rfl := h
    · rw [Kind.asyncScheme, Text.replaceAll_append_of_lacks _ (by decide),
        Text.replaceAll_part_append _ (by decide), Kind.plainScheme]
    · rw [Kind.plainScheme, Text.replaceAll_append_of_lacks _ (by decide),
        Text.replaceAll_append_of_lacks _ (by decide)]

/-- The form without a driver has the scheme of the kind, and what becomes of the rest. -/
theorem plain_append {kind : Kind} {scheme : String} (h : scheme ∈ kind.schemes)
    (rest : String) :
    plain (scheme ++ rest)
      = kind.plainScheme ++ String.ofList (withoutDrivers rest.toList) := by
  -- the one short name of a scheme is written out first
  have hnamed : ∃ named, (named = kind.asyncScheme ∨ named = kind.plainScheme) ∧
      Text.replaceStart "postgres://".toList "postgresql://".toList (scheme ++ rest).toList
        = named.toList ++ rest.toList := by
    rw [String.toList_append]
    have hkept (h : Text.Diverge "postgres://".toList scheme.toList) :
        Text.replaceStart "postgres://".toList "postgresql://".toList
          (scheme.toList ++ rest.toList) = scheme.toList ++ rest.toList :=
      Text.replaceStart_of_not_prefix (h.not_prefix_append _) _
    cases kind with
    | postgres =>
      simp only [Kind.schemes, List.mem_cons, List.not_mem_nil, or_false] at h
      obtain rfl | rfl | rfl := h
      · exact ⟨_, Or.inl rfl, hkept (by decide)⟩
      · exact ⟨_, Or.inr rfl, hkept (by decide)⟩
      · exact ⟨_, Or.inr rfl, Text.replaceStart_append _ _ _⟩
    | sqlite =>
      simp only [Kind.schemes, List.mem_cons, List.not_mem_nil, or_false] at h
      obtain rfl | rfl := h
      · exact ⟨_, Or.inl rfl, hkept (by decide)⟩
      · exact ⟨_, Or.inr rfl, hkept (by decide)⟩
  obtain ⟨named, hscheme, hnamed⟩ := hnamed
  have hrest := withoutDrivers_append hscheme rest.toList
  rw [withoutDrivers] at hrest
  rw [plain, hnamed, hrest, String.ofList_append, String.ofList_toList]

/-! ## One database -/

section

variable [Nesting]

/-- Whichever URL is configured, the form with a driver has itself as its form with a driver, and
the same form without a driver as the URL. A URL of a known kind has the forms of that kind, under
whichever of the schemes of the kind it is configured. Every environment can be given any URL, which
changes nothing else in its settings. -/
theorem names_one_database :
    (∀ url, async (async url) = async url ∧ plain (async url) = plain url)
      ∧ (∀ kind : Kind, ∀ scheme ∈ kind.schemes, ∀ rest,
        async (scheme ++ rest) = kind.asyncScheme ++ rest
          ∧ plain (scheme ++ rest)
            = kind.plainScheme ++ String.ofList (withoutDrivers rest.toList))
      ∧ ∀ url environment, Settings.ofEnvironment ((Settings.urlVariable, url) :: environment)
        = (Settings.ofEnvironment environment).map ({ · with databaseUrl := url }) := by
  refine ⟨fun url => ?_, fun kind scheme hscheme rest =>
    ⟨async_append hscheme rest, plain_append hscheme rest⟩, Settings.ofEnvironment_cons_url⟩
  obtain ⟨kind, scheme, hscheme, rest, rfl⟩ | hsame := exists_kind_or_async_eq url
  · have hasync := kind.asyncScheme_mem_schemes
    rw [async_append hscheme, async_append hasync, plain_append hasync, plain_append hscheme]
    exact ⟨rfl, rfl⟩
  · rw [hsame]
    exact ⟨hsame, rfl⟩

end

/-- A scheme with a driver behind the scheme of the URL stays in the form with a driver, and is
replaced in the other one. -/
theorem names_one_database_behind_another :
    async ("postgres://" ++ "u@host/db?next=sqlite+aiosqlite://file")
        = "postgresql+asyncpg://u@host/db?next=sqlite+aiosqlite://file"
      ∧ plain ("postgres://" ++ "u@host/db?next=sqlite+aiosqlite://file")
        = "postgresql://u@host/db?next=sqlite://file" := by
  have hforms := names_one_database.2.1 .postgres "postgres://" (by decide)
    "u@host/db?next=sqlite+aiosqlite://file"
  exact ⟨hforms.1.trans (by decide), hforms.2.trans (by decide)⟩

end DatabaseUrl

end IntentGateway
