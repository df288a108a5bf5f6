import FirmwareStamp.Version.Record

/-!
The generated C header. It has fourteen lines: a pragma, three comment lines, a blank
line, the project name as a string define, a blank line, the four number defines and
the three version string defines. In the name, a backslash or a double quote is
preceded by a backslash, so the literal reads back as the name.
-/

namespace FirmwareStamp.Version

/-- A character of a C string literal: backslash and double quote are escaped. -/
def escapeCChar (c : Char) : List Char :=
  if c = '\\' then ['\\', '\\'] else if c = '"' then ['\\', '"'] else [c]

def escapeC (s : String) : String :=
  String.ofList (s.toList.flatMap escapeCChar)

/-- The header lines for a record, each without its newline. -/
def headerLines (r : Record) : List String :=
  [ "#pragma once",
    "// Generated by buildstamp on every build. Do not edit this file.",
    "// Change major/minor/patch in the version file (or the package manifest);",
    "// the build number is incremented by the pre-build hook.",
    "",
    "#define PROG_VERSION_NAME  \"" ++ escapeC r.name ++ "\"",
    "",
    "#define PROG_VERSION_MAJOR " ++ wordText r.major,
    "#define PROG_VERSION_MINOR " ++ wordText r.minor,
    "#define PROG_VERSION_PATCH " ++ wordText r.patch,
    "#define PROG_VERSION_BUILD " ++ wordText r.build,
    "#define PROG_VERSION       \"" ++ r.versionString ++ "\"",
    "#define PROG_VERSION_SHORT \"" ++ r.shortString ++ "\"",
    "#define PROG_VERSION_LONG  \"" ++ r.longString ++ "\"" ]

/-- The header text: every line ends in a newline. -/
def renderHeader (r : Record) : String :=
  String.join ((headerLines r).map (· ++ "\n"))

end FirmwareStamp.Version
