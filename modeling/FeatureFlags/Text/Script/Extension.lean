import FeatureFlags.Text.Script.Basic

/-!
# Use of characters by scripts

Marks, signs and digits that are used with several scripts, or with another one than their own.
What is not listed is used with its own script only.
-/
namespace FeatureFlags.Text

/-- Characters that several scripts share, with the short names of these scripts. -/
structure SharedCharacters where
  scripts : List String
  members : CharSet

private def sharedCharacters1 : List SharedCharacters :=
  [⟨["avst", "cari", "copt", "dupl", "elba", "geor", "glag", "gong", "goth", "grek", "hani", "latn",
     "lydi", "mahj", "perm", "shaw"],
     .ofGaps [183, 1]⟩,
   ⟨["beng", "cyrl", "deva", "latn", "lisu", "thai", "toto"], .ofGaps [700, 1]⟩,
   ⟨["bopo", "latn"], .ofGaps [711, 1, 1, 3, 13, 1]⟩,
   ⟨["latn", "lisu"], .ofGaps [717, 1]⟩,
   ⟨["latn", "thai"], .ofGaps [727, 1]⟩,
   ⟨["cher", "copt", "cyrl", "grek", "latn", "perm", "sunu", "tale"], .ofGaps [768, 1]⟩,
   ⟨["cher", "cyrl", "grek", "latn", "osge", "sunu", "tale", "todr"], .ofGaps [769, 1]⟩,
   ⟨["cher", "cyrl", "latn", "tfng"], .ofGaps [770, 1]⟩,
   ⟨["glag", "latn", "sunu", "syrc", "thai"], .ofGaps [771, 1]⟩,
   ⟨["aghb", "cher", "copt", "cyrl", "goth", "grek", "latn", "osge", "syrc", "tfng", "todr"],
     .ofGaps [772, 1]⟩,
   ⟨["copt", "elba", "glag", "goth", "kana", "latn"], .ofGaps [773, 1]⟩,
   ⟨["cyrl", "grek", "latn", "perm"], .ofGaps [774, 1]⟩,
   ⟨["copt", "dupl", "hebr", "latn", "perm", "syrc", "tale", "tfng", "todr"], .ofGaps [775, 1]⟩,
   ⟨["armn", "cyrl", "dupl", "goth", "grek", "hebr", "latn", "perm", "syrc", "tale"],
     .ofGaps [776, 1]⟩,
   ⟨["latn", "tfng"], .ofGaps [777, 1]⟩,
   ⟨["dupl", "latn", "syrc"], .ofGaps [778, 1]⟩,
   ⟨["cher", "cyrl", "latn", "osge"], .ofGaps [779, 1]⟩,
   ⟨["cher", "latn", "tale"], .ofGaps [780, 1]⟩,
   ⟨["latn", "sunu"], .ofGaps [781, 1, 2, 1]⟩,
   ⟨["ethi", "latn"], .ofGaps [782, 1]⟩,
   ⟨["cyrl", "latn", "todr"], .ofGaps [785, 1]⟩,
   ⟨["grek", "latn", "perm", "todr"], .ofGaps [787, 1]⟩,
   ⟨["cher", "dupl", "kana", "latn", "syrc"], .ofGaps [803, 1]⟩,
   ⟨["cher", "dupl", "latn", "syrc"], .ofGaps [804, 1]⟩,
   ⟨["latn", "syrc"], .ofGaps [800, 1, 4, 1, 8, 1]⟩,
   ⟨["latn", "sunu", "syrc"], .ofGaps [813, 1]⟩,
   ⟨["cher", "latn", "syrc"], .ofGaps [816, 1]⟩,
   ⟨["aghb", "cher", "goth", "latn", "sunu", "thai"], .ofGaps [817, 1]⟩,
   ⟨["grek"], .ofGaps [834, 1, 2, 1, 6778, 2]⟩,
   ⟨["latn", "osge"], .ofGaps [856, 1]⟩,
   ⟨["aghb", "latn", "todr"], .ofGaps [862, 1]⟩,
   ⟨["latn"], .ofGaps [867, 13]⟩,
   ⟨["copt", "grek"], .ofGaps [884, 2]⟩,
   ⟨["cyrl", "perm"], .ofGaps [1155, 1]⟩,
   ⟨["cyrl", "glag"], .ofGaps [1156, 1, 2, 1, 10683, 1, 30763, 1]⟩,
   ⟨["cyrl", "latn"], .ofGaps [1157, 2]⟩,
   ⟨["armn", "geor", "glag"], .ofGaps [1417, 1]⟩,
   ⟨["arab", "gara", "nkoo", "rohg", "syrc", "thaa", "yezi"], .ofGaps [1548, 1, 14, 1]⟩,
   ⟨["arab", "syrc", "thaa"], .ofGaps [1564, 1]⟩,
   ⟨["adlm", "arab", "gara", "nkoo", "rohg", "syrc", "thaa", "yezi"], .ofGaps [1567, 1]⟩,
   ⟨["adlm", "arab", "mand", "mani", "ougr", "phlp", "rohg", "sogd", "syrc"], .ofGaps [1600, 1]⟩,
   ⟨["arab", "syrc"], .ofGaps [1611, 11, 26, 1]⟩,
   ⟨["arab", "thaa", "yezi"], .ofGaps [1632, 10]⟩,
   ⟨["arab", "rohg"], .ofGaps [1748, 1]⟩,
   ⟨["beng", "deva", "gran", "gujr", "guru", "knda", "latn", "mlym", "orya", "shrd", "taml", "telu",
     "tirh"],
     .ofGaps [2385, 1]⟩,
   ⟨["beng", "deva", "gran", "gujr", "guru", "knda", "latn", "mlym", "orya", "taml", "telu",
     "tirh"],
     .ofGaps [2386, 1]⟩,
   ⟨["beng", "deva", "dogr", "gong", "gonm", "gran", "gujr", "guru", "knda", "mahj", "mlym", "nand",
     "onao", "orya", "sind", "sinh", "sylo", "takr", "taml", "telu", "tirh"],
     .ofGaps [2404, 1]⟩,
   ⟨["beng", "deva", "dogr", "gong", "gonm", "gran", "gujr", "gukh", "guru", "knda", "limb", "mahj",
     "mlym", "nand", "onao", "orya", "sind", "sinh", "sylo", "takr", "taml", "telu", "tirh"],
     .ofGaps [2405, 1]⟩,
   ⟨["deva", "dogr", "kthi", "mahj"], .ofGaps [2406, 10]⟩,
   ⟨["beng", "cakm", "sylo"], .ofGaps [2534, 10]⟩,
   ⟨["guru", "mult"], .ofGaps [2662, 10]⟩,
   ⟨["gujr", "khoj"], .ofGaps [2790, 10]⟩,
   ⟨["gran", "taml"], .ofGaps [3046, 14, 67341, 1, 1, 1, 55, 2, 3219, 2, 1, 1]⟩,
   ⟨["knda", "nand", "tutg"], .ofGaps [3302, 10]⟩,
   ⟨["cakm", "mymr", "tale"], .ofGaps [4160, 10]⟩,
   ⟨["geor", "glag", "latn"], .ofGaps [4347, 1]⟩,
   ⟨["runr"], .ofGaps [5867, 3]⟩,
   ⟨["buhd", "hano", "tagb", "tglg"], .ofGaps [5941, 2]⟩,
   ⟨["mong", "phag"], .ofGaps [6146, 2, 1, 1]⟩,
   ⟨["beng", "deva", "gran", "knda"], .ofGaps [7376, 1, 1, 1]⟩]

private def sharedCharacters2 : List SharedCharacters :=
  [⟨["deva"], .ofGaps [7377, 1, 2, 1, 6, 1, 2, 2, 2, 7, 2, 2, 1, 4]⟩,
   ⟨["deva", "gran", "knda"], .ofGaps [7379, 1]⟩,
   ⟨["deva", "shrd"], .ofGaps [7383, 1, 1, 1, 2, 2, 2, 1]⟩,
   ⟨["deva", "knda", "mlym", "orya", "taml", "telu"], .ofGaps [7386, 1]⟩,
   ⟨["beng", "deva"], .ofGaps [7381, 2, 1, 1, 8, 1, 8, 1, 2, 1, 7, 2]⟩,
   ⟨["deva", "nand"], .ofGaps [7401, 1]⟩,
   ⟨["beng", "deva", "gran", "knda", "mlym", "nand", "orya", "sinh", "telu", "tirh", "tutg"],
     .ofGaps [7410, 1]⟩,
   ⟨["deva", "gran"], .ofGaps [7411, 1, 4, 2]⟩,
   ⟨["deva", "gran", "knda", "tutg"], .ofGaps [7412, 1]⟩,
   ⟨["beng"], .ofGaps [7415, 1]⟩,
   ⟨["nand"], .ofGaps [7418, 1]⟩,
   ⟨["cyrl", "latn", "syrc"], .ofGaps [7672, 1]⟩,
   ⟨["syrc"], .ofGaps [7674, 1]⟩,
   ⟨["latn", "mong", "phag"], .ofGaps [8239, 1]⟩,
   ⟨["adlm", "arab"], .ofGaps [8271, 1]⟩,
   ⟨["cari", "geor", "glag", "hung", "lyci", "orkh"], .ofGaps [8282, 1]⟩,
   ⟨["cari", "grek", "hung", "mero"], .ofGaps [8285, 1]⟩,
   ⟨["deva", "gran", "latn"], .ofGaps [8432, 1]⟩,
   ⟨["copt", "latn"], .ofGaps [11799, 1]⟩,
   ⟨["avst", "orkh"], .ofGaps [11824, 1]⟩,
   ⟨["avst", "cari", "geor", "hung", "kthi", "lydi", "samr"], .ofGaps [11825, 1]⟩,
   ⟨["dupl"], .ofGaps [11836, 1, 101987, 4]⟩,
   ⟨["adlm", "arab", "hung"], .ofGaps [11841, 1]⟩,
   ⟨["hani", "tang"], .ofGaps [12272, 16, 495, 1]⟩,
   ⟨["bopo", "hang", "hani", "hira", "kana", "mong", "yiii"], .ofGaps [12289, 1]⟩,
   ⟨["bopo", "hang", "hani", "hira", "kana", "mong", "phag", "yiii"], .ofGaps [12290, 1]⟩,
   ⟨["bopo", "hang", "hani", "hira", "kana"],
     .ofGaps [12291, 1, 15, 1, 8, 4, 16, 1, 6, 1, 52749, 2]⟩,
   ⟨["hani"],
     .ofGaps [12294, 1, 55, 2, 336, 16, 32, 38, 58, 40, 56, 49, 15, 12, 51, 1, 88, 25, 10, 5, 96,
              31, 106337, 18, 7902, 2]⟩,
   ⟨["bopo", "hang", "hani", "hira", "kana", "mong", "tibt", "yiii"], .ofGaps [12296, 2]⟩,
   ⟨["bopo", "hang", "hani", "hira", "kana", "lisu", "mong", "tibt", "yiii"], .ofGaps [12298, 2]⟩,
   ⟨["bopo", "hang", "hani", "hira", "kana", "yiii"], .ofGaps [12300, 6, 2, 8, 223, 1, 52837, 5]⟩,
   ⟨["bopo", "hani"], .ofGaps [12330, 4]⟩,
   ⟨["hira", "kana"], .ofGaps [12337, 5, 99, 4, 3, 1, 91, 1, 52851, 1, 45, 2]⟩,
   ⟨["hani", "hira", "kana"], .ofGaps [12348, 2]⟩,
   ⟨["hani", "latn"], .ofGaps [42752, 8]⟩,
   ⟨["deva", "dogr", "gujr", "guru", "khoj", "knda", "kthi", "mahj", "mlym", "modi", "nand", "shrd",
     "sind", "takr", "tirh", "tutg"],
     .ofGaps [43056, 3]⟩,
   ⟨["deva", "dogr", "gujr", "guru", "khoj", "knda", "kthi", "mahj", "modi", "nand", "shrd", "sind",
     "takr", "tirh", "tutg"],
     .ofGaps [43059, 3]⟩,
   ⟨["deva", "dogr", "gujr", "guru", "khoj", "kthi", "mahj", "modi", "sind", "takr", "tirh"],
     .ofGaps [43062, 2, 1, 1]⟩,
   ⟨["deva", "dogr", "gujr", "guru", "khoj", "kthi", "mahj", "modi", "shrd", "sind", "takr",
     "tirh"],
     .ofGaps [43064, 1]⟩,
   ⟨["beng", "deva", "tutg"], .ofGaps [43249, 1]⟩,
   ⟨["deva", "taml"], .ofGaps [43251, 1]⟩,
   ⟨["kali", "latn", "mymr"], .ofGaps [43310, 1]⟩,
   ⟨["bugi", "java"], .ofGaps [43471, 1]⟩,
   ⟨["arab", "nkoo"], .ofGaps [64830, 2]⟩,
   ⟨["arab", "thaa"], .ofGaps [65010, 1, 10, 1]⟩,
   ⟨["cpmn", "cprt", "linb"], .ofGaps [65792, 2]⟩,
   ⟨["cprt", "linb"], .ofGaps [65794, 1, 52, 9]⟩,
   ⟨["cprt", "lina", "linb"], .ofGaps [65799, 45]⟩,
   ⟨["arab", "copt"], .ofGaps [66272, 28]⟩,
   ⟨["mani", "ougr"], .ofGaps [68338, 1]⟩]

def sharedCharacters : List SharedCharacters :=
  sharedCharacters1 ++ sharedCharacters2

/-- The characters that are used with a script: its own, as far as nothing is said of their use, and
those that it shares. -/
def Script.extension (s : Script) : CharSet :=
  let (own, others) := sharedCharacters.partition fun g => g.scripts.any s.names.contains
  own.foldl (· ∪ ·.members) (others.foldl (· \ ·.members) s.members)

end FeatureFlags.Text
