import Gatehouse.CommandLine.Run
/-!
# What a command line reaches

The paths of a host's disk that the words of a command line lead to, so that whoever runs the program knows what to
load before.  The settings file comes first (`settingsPaths`); what else is looked at depends on the settings
(`otherPaths`).
-/
namespace Gatehouse
namespace CommandLine

/-- The paths at which the settings file may lie. -/
def settingsPaths (h : Host) (words : List String) : List String :=
  match Invocation.read words with
  | .error _ => []
  | .ok i =>
    match i.file with
    | none =>
      let path := Disk.join h.configDirectory Settings.fileName
      [path, Settings.withEnding path]
    | some given =>
      match h.expand? given with
      | none => []
      | some path => [path, Settings.withEnding path, Disk.join path Settings.fileName]

/-- The file that the key of a command comes from. -/
def KeySource.paths : KeySource → List String
  | file path => [path]
  | _ => []

/-- The files of keys and databases that settings name. -/
def settingsReach (h : Host) (s : Settings) : List String :=
  let keyFiles := [s.auth.publicKeyPath, s.auth.privateKeyPath].filterMap id ++
    s.registry.memory.keys.entries.filterMap fun (_, key) => key.publicKeyPath
  let databaseFiles := match Location.ofUrl? (h.expandTilde s.registry.database.url) with
    | some l => l.file.toList
    | none => []
  keyFiles.map h.expandTilde ++ databaseFiles ++ ((s.audit.file? h).bind id).toList

/-- The other paths that a command line leads to, once its settings file is on the disk. -/
def otherPaths (h : Host) (words : List String) : List String :=
  match Invocation.read words with
  | .error _ => []
  | .ok i =>
    let named := match i.command with
      | .keys (.add _ source _) => source.paths
      | .keys (.update _ source _) => source.paths
      | _ => []
    match Settings.filePath h i.file with
    | .error _ => named
    | .ok path =>
      match Settings.load h path with
      | .error _ => named
      | .ok s => named ++ settingsReach h s

end CommandLine
end Gatehouse
