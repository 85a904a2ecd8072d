/-!
The words of the command line: its name, how it is called, and its help.
-/
set_option autoImplicit false

namespace VolumeReclaim.CommandLine

def programName : String := "pv-reaper"

def version : String := "0.1.0"

def usage : String := s!"Usage: {programName} [OPTIONS]\n"

def helpHint : String := s!"Try '{programName} --help' for help.\n"

def helpPage : String := usage ++ "
  Delete EBS-backed Kubernetes PersistentVolumes and wait for their EBS volumes.

  Removes finalizers from every PV provisioned by the EBS CSI driver or the in-
  tree aws-ebs plugin, deletes the PV, then polls EC2 until the backing volumes
  are gone or the timeout expires. Ctrl-C stops waiting.

Options:
  --timeout SECONDS    Give up waiting for EBS volumes after SECONDS  [default:
                       300; x>=0]
  --kube-context NAME  Kubeconfig context to use (default: current context)
  --region TEXT        AWS region of the EBS volumes
  --profile TEXT       AWS named profile
  -v, --verbose        Log every PV and volume processed
  -h, --help           Show this message and exit.

  Examples:

    pv-reaper -h                          # Show help (same as --help)   pv-
    reaper                             # Reap EBS-backed PVs, wait up to 5
    minutes   pv-reaper --timeout 900               # Wait up to 15 minutes for
    EBS deletion   pv-reaper --kube-context staging      # Use kubeconfig
    context staging   pv-reaper --region eu-west-1 -v       # EC2 region eu-
    west-1, debug logging

  Exit status: 0 all volumes deleted, 1 fatal error, 2 volumes still present at
  the deadline (safe to re-run).
"

end VolumeReclaim.CommandLine
