import IntentGateway.Text.Replace

/-! # The URL of a database

The scheme of the URL names the kind of the database and, behind a plus sign, the driver that talks
to it. A URL may be configured with or without a driver. The service takes the form with an
asynchronous driver, the tools that prepare the database take the form without one.
-/

namespace IntentGateway.DatabaseUrl

/-- The schemes without a driver and the scheme with the driver that each stands for. -/
def asyncSchemes : List (String × String) :=
  [("postgresql://", "postgresql+asyncpg://"), ("postgres://", "postgresql+asyncpg://"),
    ("sqlite://", "sqlite+aiosqlite://")]

/-- The schemes with a driver and the scheme without it. -/
def plainSchemes : List (String × String) :=
  [("postgresql+asyncpg://", "postgresql://"), ("sqlite+aiosqlite://", "sqlite://")]

/-- Replaces the scheme that a URL begins with by the first entry that applies. -/
def replaceScheme (schemes : List (String × String)) (url : List Char) : List Char :=
  match schemes.find? fun scheme => (Text.dropStart? scheme.1.toList url).isSome with
  | some scheme => Text.replaceStart scheme.1.toList scheme.2.toList url
  | none => url

/-- The URL with an asynchronous driver. -/
def async (url : String) : String :=
  String.ofList (replaceScheme asyncSchemes url.toList)

/-- The URL without a driver. The schemes with one are replaced wherever they occur. -/
def plain (url : String) : String :=
  let named := Text.replaceStart "postgres://".toList "postgresql://".toList url.toList
  String.ofList (plainSchemes.foldl
    (fun text scheme => Text.replaceAll scheme.1.toList scheme.2.toList text) named)

end IntentGateway.DatabaseUrl
