import ImageHeader.Dump
import ImageHeader.Process.Spawn
import ImageHeader.Text.Blank

/-! The dump of an external program, which is given the path of the file as it is. -/

namespace ImageHeader.External

/-- The program to start when none is given: the one that the environment names, or the one on the search path. -/
def programOf (host : Host) : Path :=
  match host.environmentValue? "XXD_BIN" with
  | some bytes => ⟨bytes⟩
  | none => .ofText "xxd"

/-- The dumper that starts a program and takes what it prints. -/
def dumper (program : Path) : Dumper where
  name := "xxd"
  dump host input :=
    let host := host.log (.starting program input)
    -- The path is handed over byte by byte, so the program may see a dash in front or no text at all.
    match host.spawn program [Utf8.encode "-i", input.bytes] with
    | .error cause => (.error (.unstartable program cause), host)
    | .ok (completion, host) =>
      if completion.status.succeeded then (.ok (Utf8.decodeLossy completion.output), host)
      else
        -- What the program has said is only shown when it failed.
        let diagnostics := Blank.trim (Utf8.decodeLossy completion.diagnostics)
        (.error (.toolFailed program completion.status diagnostics), host)

end ImageHeader.External
