/-!
# Plain letters

Accented letters of the Latin script as letters without accents.
-/

namespace FormScaffold.Text

/-- Code points of letters and the plain letters that stand for them. -/
def plainLetterTable : List (Nat × List Char) :=
  [(0xC0, ['A']), (0xC1, ['A']), (0xC2, ['A']), (0xC3, ['A']), (0xC4, ['A']), (0xC5, ['A']),
   (0xC6, ['A', 'E']), (0xC7, ['C']), (0xC8, ['E']), (0xC9, ['E']), (0xCA, ['E']),
   (0xCB, ['E']), (0xCC, ['I']), (0xCD, ['I']), (0xCE, ['I']), (0xCF, ['I']), (0xD0, ['D']),
   (0xD1, ['N']), (0xD2, ['O']), (0xD3, ['O']), (0xD4, ['O']), (0xD5, ['O']), (0xD6, ['O']),
   (0xD8, ['O']), (0xD9, ['U']), (0xDA, ['U']), (0xDB, ['U']), (0xDC, ['U']), (0xDD, ['Y']),
   (0xDE, ['T', 'h']), (0xDF, ['s', 's']), (0xE0, ['a']), (0xE1, ['a']), (0xE2, ['a']),
   (0xE3, ['a']), (0xE4, ['a']), (0xE5, ['a']), (0xE6, ['a', 'e']), (0xE7, ['c']),
   (0xE8, ['e']), (0xE9, ['e']), (0xEA, ['e']), (0xEB, ['e']), (0xEC, ['i']), (0xED, ['i']),
   (0xEE, ['i']), (0xEF, ['i']), (0xF0, ['d']), (0xF1, ['n']), (0xF2, ['o']), (0xF3, ['o']),
   (0xF4, ['o']), (0xF5, ['o']), (0xF6, ['o']), (0xF8, ['o']), (0xF9, ['u']), (0xFA, ['u']),
   (0xFB, ['u']), (0xFC, ['u']), (0xFD, ['y']), (0xFE, ['t', 'h']), (0xFF, ['y']),
   (0x100, ['A']), (0x101, ['a']), (0x102, ['A']), (0x103, ['a']), (0x104, ['A']),
   (0x105, ['a']), (0x106, ['C']), (0x107, ['c']), (0x108, ['C']), (0x109, ['c']),
   (0x10A, ['C']), (0x10B, ['c']), (0x10C, ['C']), (0x10D, ['c']), (0x10E, ['D']),
   (0x10F, ['d']), (0x110, ['D']), (0x111, ['d']), (0x112, ['E']), (0x113, ['e']),
   (0x114, ['E']), (0x115, ['e']), (0x116, ['E']), (0x117, ['e']), (0x118, ['E']),
   (0x119, ['e']), (0x11A, ['E']), (0x11B, ['e']), (0x11C, ['G']), (0x11D, ['g']),
   (0x11E, ['G']), (0x11F, ['g']), (0x120, ['G']), (0x121, ['g']), (0x122, ['G']),
   (0x123, ['g']), (0x124, ['H']), (0x125, ['h']), (0x126, ['H']), (0x127, ['h']),
   (0x128, ['I']), (0x129, ['i']), (0x12A, ['I']), (0x12B, ['i']), (0x12C, ['I']),
   (0x12D, ['i']), (0x12E, ['I']), (0x12F, ['i']), (0x130, ['I']), (0x131, ['i']),
   (0x132, ['I', 'J']), (0x133, ['i', 'j']), (0x134, ['J']), (0x135, ['j']), (0x136, ['K']),
   (0x137, ['k']), (0x138, ['k']), (0x139, ['L']), (0x13A, ['l']), (0x13B, ['L']),
   (0x13C, ['l']), (0x13D, ['L']), (0x13E, ['l']), (0x13F, ['L']), (0x140, ['l']),
   (0x141, ['L']), (0x142, ['l']), (0x143, ['N']), (0x144, ['n']), (0x145, ['N']),
   (0x146, ['n']), (0x147, ['N']), (0x148, ['n']), (0x149, ['\'', 'n']), (0x14A, ['N', 'G']),
   (0x14B, ['n', 'g']), (0x14C, ['O']), (0x14D, ['o']), (0x14E, ['O']), (0x14F, ['o']),
   (0x150, ['O']), (0x151, ['o']), (0x152, ['O', 'E']), (0x153, ['o', 'e']), (0x154, ['R']),
   (0x155, ['r']), (0x156, ['R']), (0x157, ['r']), (0x158, ['R']), (0x159, ['r']),
   (0x15A, ['S']), (0x15B, ['s']), (0x15C, ['S']), (0x15D, ['s']), (0x15E, ['S']),
   (0x15F, ['s']), (0x160, ['S']), (0x161, ['s']), (0x162, ['T']), (0x163, ['t']),
   (0x164, ['T']), (0x165, ['t']), (0x166, ['T']), (0x167, ['t']), (0x168, ['U']),
   (0x169, ['u']), (0x16A, ['U']), (0x16B, ['u']), (0x16C, ['U']), (0x16D, ['u']),
   (0x16E, ['U']), (0x16F, ['u']), (0x170, ['U']), (0x171, ['u']), (0x172, ['U']),
   (0x173, ['u']), (0x174, ['W']), (0x175, ['w']), (0x176, ['Y']), (0x177, ['y']),
   (0x178, ['Y']), (0x179, ['Z']), (0x17A, ['z']), (0x17B, ['Z']), (0x17C, ['z']),
   (0x17D, ['Z']), (0x17E, ['z']), (0x17F, ['s']), (0x1CD, ['A']), (0x1CE, ['a']),
   (0x1CF, ['I']), (0x1D0, ['i']), (0x1D1, ['O']), (0x1D2, ['o']), (0x1D3, ['U']),
   (0x1D4, ['u']), (0x1D5, ['U']), (0x1D6, ['u']), (0x1D7, ['U']), (0x1D8, ['u']),
   (0x1D9, ['U']), (0x1DA, ['u']), (0x1DB, ['U']), (0x1DC, ['u']), (0x1DE, ['A']),
   (0x1DF, ['a']), (0x1E0, ['A']), (0x1E1, ['a']), (0x1E6, ['G']), (0x1E7, ['g']),
   (0x1E8, ['K']), (0x1E9, ['k']), (0x1EA, ['O']), (0x1EB, ['o']), (0x1EC, ['O']),
   (0x1ED, ['o']), (0x1F0, ['j']), (0x1F4, ['G']), (0x1F5, ['g']), (0x1F8, ['N']),
   (0x1F9, ['n']), (0x1FA, ['A']), (0x1FB, ['a']), (0x200, ['A']), (0x201, ['a']),
   (0x202, ['A']), (0x203, ['a']), (0x204, ['E']), (0x205, ['e']), (0x206, ['E']),
   (0x207, ['e']), (0x208, ['I']), (0x209, ['i']), (0x20A, ['I']), (0x20B, ['i']),
   (0x20C, ['O']), (0x20D, ['o']), (0x20E, ['O']), (0x20F, ['o']), (0x210, ['R']),
   (0x211, ['r']), (0x212, ['R']), (0x213, ['r']), (0x214, ['U']), (0x215, ['u']),
   (0x216, ['U']), (0x217, ['u']), (0x218, ['S']), (0x219, ['s']), (0x21A, ['T']),
   (0x21B, ['t']), (0x21E, ['H']), (0x21F, ['h']), (0x1E00, ['A']), (0x1E01, ['a']),
   (0x1E02, ['B']), (0x1E03, ['b']), (0x1E04, ['B']), (0x1E05, ['b']), (0x1E06, ['B']),
   (0x1E07, ['b']), (0x1E08, ['C']), (0x1E09, ['c']), (0x1E0A, ['D']), (0x1E0B, ['d']),
   (0x1E0C, ['D']), (0x1E0D, ['d']), (0x1E0E, ['D']), (0x1E0F, ['d']), (0x1E10, ['D']),
   (0x1E11, ['d']), (0x1E12, ['D']), (0x1E13, ['d']), (0x1E14, ['E']), (0x1E15, ['e']),
   (0x1E16, ['E']), (0x1E17, ['e']), (0x1E18, ['E']), (0x1E19, ['e']), (0x1E1A, ['E']),
   (0x1E1B, ['e']), (0x1E1C, ['E']), (0x1E1D, ['e']), (0x1E1E, ['F']), (0x1E1F, ['f']),
   (0x1E20, ['G']), (0x1E21, ['g']), (0x1E22, ['H']), (0x1E23, ['h']), (0x1E24, ['H']),
   (0x1E25, ['h']), (0x1E26, ['H']), (0x1E27, ['h']), (0x1E28, ['H']), (0x1E29, ['h']),
   (0x1E2A, ['H']), (0x1E2B, ['h']), (0x1E2C, ['I']), (0x1E2D, ['i']), (0x1E2E, ['I']),
   (0x1E2F, ['i']), (0x1E30, ['K']), (0x1E31, ['k']), (0x1E32, ['K']), (0x1E33, ['k']),
   (0x1E34, ['K']), (0x1E35, ['k']), (0x1E36, ['L']), (0x1E37, ['l']), (0x1E38, ['L']),
   (0x1E39, ['l']), (0x1E3A, ['L']), (0x1E3B, ['l']), (0x1E3C, ['L']), (0x1E3D, ['l']),
   (0x1E3E, ['M']), (0x1E3F, ['m']), (0x1E40, ['M']), (0x1E41, ['m']), (0x1E42, ['M']),
   (0x1E43, ['m']), (0x1E44, ['N']), (0x1E45, ['n']), (0x1E46, ['N']), (0x1E47, ['n']),
   (0x1E48, ['N']), (0x1E49, ['n']), (0x1E4A, ['N']), (0x1E4B, ['n']), (0x1E4C, ['O']),
   (0x1E4D, ['o']), (0x1E4E, ['O']), (0x1E4F, ['o']), (0x1E50, ['O']), (0x1E51, ['o']),
   (0x1E52, ['O']), (0x1E53, ['o']), (0x1E54, ['P']), (0x1E55, ['p']), (0x1E56, ['P']),
   (0x1E57, ['p']), (0x1E58, ['R']), (0x1E59, ['r']), (0x1E5A, ['R']), (0x1E5B, ['r']),
   (0x1E5C, ['R']), (0x1E5D, ['r']), (0x1E5E, ['R']), (0x1E5F, ['r']), (0x1E60, ['S']),
   (0x1E61, ['s']), (0x1E62, ['S']), (0x1E63, ['s']), (0x1E64, ['S']), (0x1E65, ['s']),
   (0x1E66, ['S']), (0x1E67, ['s']), (0x1E68, ['S']), (0x1E69, ['s']), (0x1E6A, ['T']),
   (0x1E6B, ['t']), (0x1E6C, ['T']), (0x1E6D, ['t']), (0x1E6E, ['T']), (0x1E6F, ['t']),
   (0x1E70, ['T']), (0x1E71, ['t']), (0x1E72, ['U']), (0x1E73, ['u']), (0x1E74, ['U']),
   (0x1E75, ['u']), (0x1E76, ['U']), (0x1E77, ['u']), (0x1E78, ['U']), (0x1E79, ['u']),
   (0x1E7A, ['U']), (0x1E7B, ['u']), (0x1E7C, ['V']), (0x1E7D, ['v']), (0x1E7E, ['V']),
   (0x1E7F, ['v']), (0x1E80, ['W']), (0x1E81, ['w']), (0x1E82, ['W']), (0x1E83, ['w']),
   (0x1E84, ['W']), (0x1E85, ['w']), (0x1E86, ['W']), (0x1E87, ['w']), (0x1E88, ['W']),
   (0x1E89, ['w']), (0x1E8A, ['X']), (0x1E8B, ['x']), (0x1E8C, ['X']), (0x1E8D, ['x']),
   (0x1E8E, ['Y']), (0x1E8F, ['y']), (0x1E90, ['Z']), (0x1E91, ['z']), (0x1E92, ['Z']),
   (0x1E93, ['z']), (0x1E94, ['Z']), (0x1E95, ['z']), (0x1E96, ['h']), (0x1E97, ['t']),
   (0x1E98, ['w']), (0x1E99, ['y']), (0x1EA0, ['A']), (0x1EA1, ['a']), (0x1EA2, ['A']),
   (0x1EA3, ['a']), (0x1EA4, ['A']), (0x1EA5, ['a']), (0x1EA6, ['A']), (0x1EA7, ['a']),
   (0x1EA8, ['A']), (0x1EA9, ['a']), (0x1EAA, ['A']), (0x1EAB, ['a']), (0x1EAC, ['A']),
   (0x1EAD, ['a']), (0x1EAE, ['A']), (0x1EAF, ['a']), (0x1EB0, ['A']), (0x1EB1, ['a']),
   (0x1EB2, ['A']), (0x1EB3, ['a']), (0x1EB4, ['A']), (0x1EB5, ['a']), (0x1EB6, ['A']),
   (0x1EB7, ['a']), (0x1EB8, ['E']), (0x1EB9, ['e']), (0x1EBA, ['E']), (0x1EBB, ['e']),
   (0x1EBC, ['E']), (0x1EBD, ['e']), (0x1EBE, ['E']), (0x1EBF, ['e']), (0x1EC0, ['E']),
   (0x1EC1, ['e']), (0x1EC2, ['E']), (0x1EC3, ['e']), (0x1EC4, ['E']), (0x1EC5, ['e']),
   (0x1EC6, ['E']), (0x1EC7, ['e']), (0x1EC8, ['I']), (0x1EC9, ['i']), (0x1ECA, ['I']),
   (0x1ECB, ['i']), (0x1ECC, ['O']), (0x1ECD, ['o']), (0x1ECE, ['O']), (0x1ECF, ['o']),
   (0x1ED0, ['O']), (0x1ED1, ['o']), (0x1ED2, ['O']), (0x1ED3, ['o']), (0x1ED4, ['O']),
   (0x1ED5, ['o']), (0x1ED6, ['O']), (0x1ED7, ['o']), (0x1ED8, ['O']), (0x1ED9, ['o']),
   (0x1EDA, ['O']), (0x1EDB, ['o']), (0x1EDC, ['O']), (0x1EDD, ['o']), (0x1EDE, ['O']),
   (0x1EDF, ['o']), (0x1EE0, ['O']), (0x1EE1, ['o']), (0x1EE2, ['O']), (0x1EE3, ['o']),
   (0x1EE4, ['U']), (0x1EE5, ['u']), (0x1EE6, ['U']), (0x1EE7, ['u']), (0x1EE8, ['U']),
   (0x1EE9, ['u']), (0x1EEA, ['U']), (0x1EEB, ['u']), (0x1EEC, ['U']), (0x1EED, ['u']),
   (0x1EEE, ['U']), (0x1EEF, ['u']), (0x1EF0, ['U']), (0x1EF1, ['u']), (0x1EF2, ['Y']),
   (0x1EF3, ['y']), (0x1EF4, ['Y']), (0x1EF5, ['y']), (0x1EF6, ['Y']), (0x1EF7, ['y']),
   (0x1EF8, ['Y']), (0x1EF9, ['y'])]

/-- A character of ASCII as it is, an accented letter as its plain form, and a dash for
all else. -/
def plainLetters (c : Char) : List Char :=
  if c.toNat < 128 then [c] else (plainLetterTable.lookup c.toNat).getD ['-']

end FormScaffold.Text
