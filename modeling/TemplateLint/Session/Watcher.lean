import TemplateLint.Config.File
import TemplateLint.Uri.Basic

/-!
# Watched files

The files whose changes an editor is asked to report: those that may hold a configuration
of the workspace, and the configuration files in the home directory.
-/

namespace TemplateLint

/-- What an editor is asked to watch: the files of a pattern, anywhere or below a
directory. -/
structure Watcher where
  base : Option Uri
  pattern : String
deriving DecidableEq

namespace Watcher

/-- The patterns of the watched files of a workspace. -/
def workspacePatterns : List String :=
  ["**/.pug-lint\x7brc,rc.js,rc.json,.json\x7d", "**/.jade-lint\x7brc,.json\x7d",
    "**/package.json"]

/-- The pattern of the watched files of a home directory. -/
def homePattern : String := "\x7b" ++ ",".intercalate ConfigFile.names ++ "\x7d"

/-- The watchers of a session with a home directory, if there is one. -/
def forHome (home : Option Path) : List Watcher :=
  workspacePatterns.map (fun pattern => ⟨none, pattern⟩) ++
    match home.bind Uri.ofDirectory? with
    | some base => [⟨some base, homePattern⟩]
    | none => []

/-- The number of all kinds of changes. -/
def everyChange : Int := 7

/-- The written form of a watcher for every kind of change. -/
def toValue (w : Watcher) : Json.Value :=
  let pattern : Json.Value :=
    match w.base with
    | none => .text w.pattern
    | some base => .object [("baseUri", .text base.text), ("pattern", .text w.pattern)]
  .object [("globPattern", pattern), ("kind", .number (.integer everyChange))]

end Watcher

end TemplateLint
