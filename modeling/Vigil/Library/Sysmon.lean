import Vigil.Normalizer.Document

/-! # Events of Sysmon

The normalizer for the events that Sysmon writes: processes, network connections, loaded images, files and the
registry. -/

namespace Vigil.Library

/-- The text of the normalizer. -/
def sysmonText : String := r#"name: Microsoft Sysmon
domain: endpoint
strict: true
timestamp:
  field: UtcTime
  format: "%Y-%m-%d %H:%M:%S%.f"
fields:
  mapping:
    command_line: CommandLine
    logon_id: LogonId
    parent_process_name: baseName(ParentImage)
    parent_process_path: ParentImage
    pid: ProcessId
    ppid: ParentProcessId
    process_name: baseName(Image)
    process_path: Image
    unique_pid: ProcessGuid
    unique_ppid: ParentProcessGuid
    user_name: User
events:
  process:
    filter: EventId in (1, 5)
    enum:
      subtype:
        create: EventId == 1
        terminate: EventId == 5
  network:
    filter: EventId == 3
    mapping:
      destination_address: DestinationIp
      destination_port: DestinationPort
      source_address: SourceIp
      source_port: SourcePort
    enum:
      protocol:
        tcp: Protocol == "tcp"
        udp: Protocol == "udp"
  image_load:
    filter: EventId == 7
    mapping:
      image_name: baseName(ImageLoaded)
      image_path: ImageLoaded
  file:
    filter: EventId in (2, 11, 23)
    mapping:
      file_name: baseName(TargetFilename)
      file_path: TargetFilename
    enum:
      subtype:
        create: EventId in (2, 11)
        delete: EventId == 23
  registry:
    filter: EventId in (12, 13, 14)
    mapping:
      registry_path: TargetObject
      registry_data: Details
"#

/-- The normalizer, if its text is one. -/
def sysmon? : Option Normalizer := (Normalizer.ofYaml? sysmonText).toOption

end Vigil.Library
