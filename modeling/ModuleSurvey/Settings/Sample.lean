/-! # Sample settings

The settings files that are written for a user to start from.

* `Settings.sample` — the text, bare or with explanations; it reads as the default settings.
-/

namespace ModuleSurvey.Settings

def bareSample : List String := [
    "# tfinspect configuration",
    "output:",
    "  format: summary",
    "  pretty: true",
    "check:",
    "  fail_on: error",
    "loader:",
    "  include_overrides: true"]

def explainedSample : List String := [
    "# tfinspect configuration",
    "#",
    "# Discovery order (first match wins):",
    "#   1. --config <FILE>",
    "#   2. TFINSPECT_CONFIG_PATH",
    "#   3. ./tfinspect.yaml",
    "#   4. ~/.tfinspect/config.yaml",
    "#",
    "# TFINSPECT_FORMAT and TFINSPECT_FAIL_ON override the values below.",
    "",
    "output:",
    "  # summary: human-readable listing",
    "  # json:    stable JSON encoding of the module",
    "  format: summary",
    "",
    "  # Pretty-print JSON output. `inspect --compact` forces single-line output.",
    "  pretty: true",
    "",
    "check:",
    "  # Lowest diagnostic severity that makes `tfinspect check` exit non-zero.",
    "  #   error   - fail on errors only",
    "  #   warning - fail on errors or warnings",
    "  #   never   - always succeed, report only",
    "  fail_on: error",
    "",
    "loader:",
    "  # Load override.tf and *_override.tf (and .tf.json equivalents) after the",
    "  # primary files so their declarations replace earlier ones.",
    "  include_overrides: true",
    "",
    "  # File names to skip. Entries are plain file names, not paths.",
    "  # Hidden files and editor backups (.*, #*, *~) are always skipped.",
    "  ignore: []",
    "  # ignore:",
    "  #   - scratch.tf",
    "  #   - experimental.tf.json"]

def sample (explained : Bool) : String :=
  String.join ((if explained then explainedSample else bareSample).map (· ++ "\n"))

end ModuleSurvey.Settings
