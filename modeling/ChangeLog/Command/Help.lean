/-
  The words of the help.
-/

namespace ChangeLog.Command

/-- The name and the version of the program. -/
def versionText : String := "clog 0.1.0\n"

/-- What the program can be told to do. -/
def helpText : String :=
  "Ordered, resumable change log\n" ++
  "\n" ++
  "Usage: clog [OPTIONS] COMMAND\n" ++
  "\n" ++
  "Commands:\n" ++
  "  append EVENT_TYPE     append one event\n" ++
  "      --before TEXT, --after TEXT, --source NAME, --hex, --sync MODE\n" ++
  "  get OFFSET            show the event at an offset\n" ++
  "  replay                show the events of a range\n" ++
  "      --from OFFSET, --to OFFSET\n" ++
  "  consume CONSUMER      show what a consumer has not acknowledged\n" ++
  "      -n, --max COUNT, --ack\n" ++
  "  ack CONSUMER OFFSET   acknowledge everything up to an offset\n" ++
  "  progress [CONSUMER]   show how far consumers have come\n" ++
  "  inspect               show the counters of the log\n" ++
  "  serve                 start a server\n" ++
  "      -c, --config FILE, --bind ADDRESS, --memory, --sync MODE, --max-read-batch COUNT\n" ++
  "  help                  show these words\n" ++
  "\n" ++
  "Options:\n" ++
  "  -d, --data-dir DIR    the directory of the log (clog-data if not given)\n" ++
  "      --format FORMAT   text or json\n" ++
  "  -v, --verbose\n" ++
  "  -h, --help\n" ++
  "  -V, --version\n" ++
  "\n" ++
  "A sync mode is every-write or os-default.\n"

end ChangeLog.Command
