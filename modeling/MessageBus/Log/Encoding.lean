import MessageBus.Datum
import MessageBus.Log.Settings

namespace MessageBus.Log

namespace Format

def toJson (f : Format) : Json.Value := .string f.name

def ofDatum : Datum → Except Misfit Format :=
  Datum.asVariant (all.map fun f => Datum.bare f.name f)

end Format

namespace Rotation

def toJson (r : Rotation) : Json.Value := .string r.name

def ofDatum : Datum → Except Misfit Rotation :=
  Datum.asVariant (all.map fun r => Datum.bare r.name r)

end Rotation

namespace Destination

def toJson : Destination → Json.Value
  | stdout => .string "stdout"
  | stderr => .string "stderr"
  | file directory => .object [("file", .string directory)]

def ofDatum : Datum → Except Misfit Destination :=
  Datum.asVariant
    [Datum.bare "stdout" stdout, Datum.bare "stderr" stderr,
      Datum.carrying "file" (Datum.asText "path string") file]

end Destination

namespace Settings

def toJson (s : Settings) : Json.Value :=
  .ofMembers
    [("level", .string s.level), ("format", s.format.toJson), ("target", s.target.toJson),
      ("rotation", s.rotation.toJson), ("file_prefix", .string s.filePrefix),
      ("timestamps", .bool s.timestamps), ("ansi", .bool s.ansi),
      ("directives", .array (s.directives.map .string))]

def fields : List (Datum.Field Settings) :=
  [Datum.field "level" Datum.asString fun v s => { s with level := v },
    Datum.field "format" Format.ofDatum fun v s => { s with format := v },
    Datum.field "target" Destination.ofDatum fun v s => { s with target := v },
    Datum.field "rotation" Rotation.ofDatum fun v s => { s with rotation := v },
    Datum.field "file_prefix" Datum.asString fun v s => { s with filePrefix := v },
    Datum.field "timestamps" Datum.asBool fun v s => { s with timestamps := v },
    Datum.field "ansi" Datum.asBool fun v s => { s with ansi := v },
    Datum.field "directives" Datum.asStrings fun v s => { s with directives := v }]

def ofDatum : Datum → Except Misfit Settings := Datum.asStructure "LogConfig" fields {}

def ofJson (v : Json.Value) : Except Misfit Settings := ofDatum (.ofJson v)

end Settings

end MessageBus.Log
