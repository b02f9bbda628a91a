/-!
# Script extensions

A code point used in several scripts belongs to the extension of each of them. The table holds, for
each script whose extension differs from the script itself, the code points that the extension adds
and those that it lacks.
-/

namespace LintServer.Unicode.Table

/-- For a script by its long name: the code points its extension adds, then those it lacks. -/
def scriptExtension : List (String × List String × List String) := [
  ("adlam",
    ["61F 640"],
    [""]),
  ("arabic",
    ["60C 61B 61F 640 64B-655 670 FD3E-FD3F 102E0-102FB"],
    [""]),
  ("bengali",
    ["951-952 964-965 1CD0 1CD2 1CD5-1CD6 1CD8 1CE1 1CEA 1CED 1CF2 1CF5-1CF7 A8F1"],
    [""]),
  ("bopomofo",
    ["3001-3003 3008-3011 3013-301F 302A-302D 3030 3037 30FB FE45-FE46 FF61-FF65"],
    [""]),
  ("buginese",
    ["A9CF"],
    [""]),
  ("buhid",
    ["1735-1736"],
    [""]),
  ("chakma",
    ["9E6-9EF 1040-1049"],
    [""]),
  ("common",
    [""],
    ["60C 61B 61F 640 964-965 10FB 1735-1736 1802-1803 1805 1CD3 1CE1 1CE9-1CEC 1CEE-1CF3",
     "1CF5-1CF7 1CFA 202F 2E43 3001-3003 3006 3008-3011 3013-301F 3030-3035 3037 303C-303F",
     "309B-309C 30A0 30FB-30FC 3190-319F 31C0-31E3 3220-3247 3280-32B0 32C0-32CB 32FF 3358-3370",
     "337B-337F 33E0-33FE A700-A707 A830-A839 A92E A9CF FD3E-FD3F FE45-FE46 FF61-FF65 FF70",
     "FF9E-FF9F 10100-10102 10107-10133 10137-1013F 102E1-102FB 1BCA0-1BCA3 1D360-1D371",
     "1F250-1F251"]),
  ("coptic",
    ["102E0-102FB"],
    [""]),
  ("cypriot",
    ["10100-10102 10107-10133 10137-1013F"],
    [""]),
  ("cyprominoan",
    ["10100-10101"],
    [""]),
  ("cyrillic",
    ["485-486 1DF8 2E43"],
    [""]),
  ("devanagari",
    ["951-952 964-965 1CD0-1CF6 1CF8-1CF9 20F0 A830-A839"],
    [""]),
  ("dogra",
    ["964-96F A830-A839"],
    [""]),
  ("duployan",
    ["1BCA0-1BCA3"],
    [""]),
  ("georgian",
    ["10FB"],
    [""]),
  ("glagolitic",
    ["484 487 2E43 A66F"],
    [""]),
  ("grantha",
    ["951-952 964-965 BE6-BF3 1CD0 1CD2-1CD3 1CF2-1CF4 1CF8-1CF9 20F0 1133B 11FD0-11FD1 11FD3"],
    [""]),
  ("greek",
    ["342 345 1DC0-1DC1"],
    [""]),
  ("gujarati",
    ["951-952 964-965 A830-A839"],
    [""]),
  ("gunjalagondi",
    ["964-965"],
    [""]),
  ("gurmukhi",
    ["951-952 964-965 A830-A839"],
    [""]),
  ("han",
    ["3001-3003 3006 3008-3011 3013-301F 302A-302D 3030 3037 303C-303F 30FB 3190-319F 31C0-31E3",
     "3220-3247 3280-32B0 32C0-32CB 32FF 3358-3370 337B-337F 33E0-33FE A700-A707 FE45-FE46",
     "FF61-FF65 1D360-1D371 1F250-1F251"],
    [""]),
  ("hangul",
    ["3001-3003 3008-3011 3013-301F 3030 3037 30FB FE45-FE46 FF61-FF65"],
    [""]),
  ("hanifirohingya",
    ["60C 61B 61F 640 6D4"],
    [""]),
  ("hanunoo",
    ["1735-1736"],
    [""]),
  ("hiragana",
    ["3001-3003 3008-3011 3013-301F 3030-3035 3037 303C-303D 3099-309C 30A0 30FB-30FC FE45-FE46",
     "FF61-FF65 FF70 FF9E-FF9F"],
    [""]),
  ("inherited",
    [""],
    ["342 345 363-36F 485-486 64B-655 670 951-952 1CD0-1CD2 1CD4-1CE0 1CE2-1CE8 1CED 1CF4",
     "1CF8-1CF9 1DC0-1DC1 1DF8 1DFA 20F0 302A-302D 3099-309A 102E0 1133B"]),
  ("javanese",
    ["A9CF"],
    [""]),
  ("kaithi",
    ["966-96F A830-A839"],
    [""]),
  ("kannada",
    ["951-952 964-965 1CD0 1CD2 1CDA 1CF2 1CF4 A830-A835"],
    [""]),
  ("katakana",
    ["3001-3003 3008-3011 3013-301F 3030-3035 3037 303C-303D 3099-309C 30A0 30FB-30FC FE45-FE46",
     "FF61-FF65 FF70 FF9E-FF9F"],
    [""]),
  ("kayahli",
    ["A92E"],
    [""]),
  ("khojki",
    ["AE6-AEF A830-A839"],
    [""]),
  ("khudawadi",
    ["964-965 A830-A839"],
    [""]),
  ("latin",
    ["363-36F 485-486 951-952 10FB 202F 20F0 A700-A707 A92E"],
    [""]),
  ("limbu",
    ["965"],
    [""]),
  ("lineara",
    ["10107-10133"],
    [""]),
  ("linearb",
    ["10100-10102 10107-10133 10137-1013F"],
    [""]),
  ("mahajani",
    ["964-96F A830-A839"],
    [""]),
  ("malayalam",
    ["951-952 964-965 1CDA A830-A832"],
    [""]),
  ("mandaic",
    ["640"],
    [""]),
  ("manichaean",
    ["640"],
    [""]),
  ("masaramgondi",
    ["964-965"],
    [""]),
  ("modi",
    ["A830-A839"],
    [""]),
  ("mongolian",
    ["1802-1803 1805 202F"],
    [""]),
  ("multani",
    ["A66-A6F"],
    [""]),
  ("myanmar",
    ["A92E"],
    [""]),
  ("nandinagari",
    ["964-965 CE6-CEF 1CE9 1CF2 1CFA A830-A835"],
    [""]),
  ("nko",
    ["60C 61B 61F FD3E-FD3F"],
    [""]),
  ("oldpermic",
    ["483"],
    [""]),
  ("olduyghur",
    ["640 10AF2"],
    [""]),
  ("oriya",
    ["951-952 964-965 1CDA 1CF2"],
    [""]),
  ("phagspa",
    ["1802-1803 1805"],
    [""]),
  ("psalterpahlavi",
    ["640"],
    [""]),
  ("sharada",
    ["951 1CD7 1CD9 1CDC-1CDD 1CE0"],
    [""]),
  ("sinhala",
    ["964-965"],
    [""]),
  ("sogdian",
    ["640"],
    [""]),
  ("sylotinagri",
    ["964-965 9E6-9EF"],
    [""]),
  ("syriac",
    ["60C 61B-61C 61F 640 64B-655 670 1DF8 1DFA"],
    [""]),
  ("tagalog",
    ["1735-1736"],
    [""]),
  ("tagbanwa",
    ["1735-1736"],
    [""]),
  ("taile",
    ["1040-1049"],
    [""]),
  ("takri",
    ["964-965 A830-A839"],
    [""]),
  ("tamil",
    ["951-952 964-965 1CDA A8F3 11301 11303 1133B-1133C"],
    [""]),
  ("telugu",
    ["951-952 964-965 1CDA 1CF2"],
    [""]),
  ("thaana",
    ["60C 61B-61C 61F 660-669 FDF2 FDFD"],
    [""]),
  ("tirhuta",
    ["951-952 964-965 1CF2 A830-A839"],
    [""]),
  ("yezidi",
    ["60C 61B 61F 660-669"],
    [""]),
  ("yi",
    ["3001-3002 3008-3011 3014-301B 30FB FF61-FF65"],
    [""])]

end LintServer.Unicode.Table
