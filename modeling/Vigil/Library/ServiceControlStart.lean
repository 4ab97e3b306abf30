import Vigil.Analytic.Document

/-! # Services that are started

The analytic that detects the start of a service by one of the programs that come with the system. -/

namespace Vigil.Library

/-- The text of the analytic. -/
def serviceControlStartText : String := r#"metadata:
  id: 7f8e6b32-4c1d-4a5e-9b0f-2d3c6a1e8f47
  name: Service Started via Built-in Service Control Utilities
  description: >-
    Detects a Windows service being started with sc.exe, net.exe, the
    PowerShell Start-Service cmdlet or WMIC. Adversaries start services to
    execute payloads they registered as a service or to re-enable components
    needed for later stages.
  categories:
    - detect
  confidence: low
  contributors:
    - Endgame
  os:
    - windows
  tactics:
    - Execution
    - Persistence
  techniques:
    - T1035
    - T1569.002
  references:
    - https://attack.mitre.org/techniques/T1569/002/
  created_date: 11/30/2018
  updated_date: 11/30/2018
query: |
  process where subtype.create and (
      (process_name : "sc.exe" and command_line : "* start *") or
      (process_name : "net.exe" and match~(command_line, ".*\\sstart\\s+.+")) or
      (process_name : "powershell.exe" and command_line == "*Start-Service*") or
      (process_name : "wmic.exe" and command_line : "*service*call*startservice*")
  )
"#

/-- The analytic, if its text is one. -/
def serviceControlStart? : Option Analytic := (Analytic.ofYaml? serviceControlStartText).toOption

end Vigil.Library
