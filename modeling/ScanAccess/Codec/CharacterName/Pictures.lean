import ScanAccess.Codec.CharacterName.Run

/-! # Names of pictures and signs

The names of the characters from U+1D000 on: musical and mathematical signs, signs of
games, pictures, and tags.
-/

namespace ScanAccess.Codec.CharacterName

/-- The names, in the order of the characters. -/
def pictures : List NameRun := [
  ⟨0x1d000, "BYZANTINE MUSICAL SYMBOL ", ["PSILI,DASEIA,PERISPOMENI,OXEIA EKFONITIKON",
     "OXEIA DIPLI,VAREIA EKFONITIKON,VAREIA DIPLI,KATHISTI,SYRMATIKI,PARAKLITIKI,YPOKRISIS",
     "YPOKRISIS DIPLI,KREMASTI,APESO EKFONITIKON,EXO EKFONITIKON,TELEIA,KENTIMATA,APOSTROFOS",
     "APOSTROFOS DIPLI,SYNEVMA,THITA,OLIGON ARCHAION,GORGON ARCHAION,PSILON,CHAMILON,VATHY",
     "ISON ARCHAION,KENTIMA ARCHAION,KENTIMATA ARCHAION,SAXIMATA,PARICHON,STAVROS APODEXIA",
     "OXEIAI ARCHAION,VAREIAI ARCHAION,APODERMA ARCHAION,APOTHEMA,KLASMA,REVMA",
     "PIASMA ARCHAION,TINAGMA,ANATRICHISMA,SEISMA,SYNAGMA ARCHAION,SYNAGMA META STAVROU",
     "OYRANISMA ARCHAION,THEMA,LEMOI,DYO,TRIA,TESSERA,KRATIMATA,APESO EXO NEO,FTHORA ARCHAION",
     "IMIFTHORA,TROMIKON ARCHAION,KATAVA TROMIKON,PELASTON,PSIFISTON,KONTEVMA",
     "CHOREVMA ARCHAION,RAPISMA,PARAKALESMA ARCHAION,PARAKLITIKI ARCHAION,ICHADIN,NANA",
     "PETASMA,KONTEVMA ALLO,TROMIKON ALLO,STRAGGISMATA,GRONTHISMATA,ISON NEO,OLIGON NEO",
     "OXEIA NEO,PETASTI,KOUFISMA,PETASTOKOUFISMA,KRATIMOKOUFISMA,PELASTON NEO",
     "KENTIMATA NEO ANO,KENTIMA NEO ANO,YPSILI,APOSTROFOS NEO,APOSTROFOI SYNDESMOS NEO",
     "YPORROI,KRATIMOYPORROON,ELAFRON,CHAMILI,MIKRON ISON,VAREIA NEO,PIASMA NEO,PSIFISTON NEO",
     "OMALON,ANTIKENOMA,LYGISMA,PARAKLITIKI NEO,PARAKALESMA NEO,ETERON PARAKALESMA,KYLISMA",
     "ANTIKENOKYLISMA,TROMIKON NEO,EKSTREPTON,SYNAGMA NEO,SYRMA,CHOREVMA NEO,EPEGERMA",
     "SEISMA NEO,XIRON KLASMA,TROMIKOPSIFISTON,PSIFISTOLYGISMA,TROMIKOLYGISMA",
     "TROMIKOPARAKALESMA,PSIFISTOPARAKALESMA,TROMIKOSYNAGMA,PSIFISTOSYNAGMA,GORGOSYNTHETON",
     "ARGOSYNTHETON,ETERON ARGOSYNTHETON,OYRANISMA NEO,THEMATISMOS ESO,THEMATISMOS EXO",
     "THEMA APLOUN,THES KAI APOTHES,KATAVASMA,ENDOFONON,YFEN KATO,YFEN ANO,STAVROS,KLASMA ANO",
     "DIPLI ARCHAION,KRATIMA ARCHAION,KRATIMA ALLO,KRATIMA NEO,APODERMA NEO,APLI,DIPLI,TRIPLI",
     "TETRAPLI,KORONIS,LEIMMA ENOS CHRONOU,LEIMMA DYO CHRONON,LEIMMA TRION CHRONON",
     "LEIMMA TESSARON CHRONON,LEIMMA IMISEOS CHRONOU,GORGON NEO ANO",
     "GORGON PARESTIGMENON ARISTERA,GORGON PARESTIGMENON DEXIA,DIGORGON",
     "DIGORGON PARESTIGMENON ARISTERA KATO,DIGORGON PARESTIGMENON ARISTERA ANO",
     "DIGORGON PARESTIGMENON DEXIA,TRIGORGON,ARGON,IMIDIARGON,DIARGON,AGOGI POLI ARGI",
     "AGOGI ARGOTERI,AGOGI ARGI,AGOGI METRIA,AGOGI MESI,AGOGI GORGI,AGOGI GORGOTERI",
     "AGOGI POLI GORGI,MARTYRIA PROTOS ICHOS,MARTYRIA ALLI PROTOS ICHOS",
     "MARTYRIA DEYTEROS ICHOS,MARTYRIA ALLI DEYTEROS ICHOS,MARTYRIA TRITOS ICHOS",
     "MARTYRIA TRIFONIAS,MARTYRIA TETARTOS ICHOS,MARTYRIA TETARTOS LEGETOS ICHOS",
     "MARTYRIA LEGETOS ICHOS,MARTYRIA PLAGIOS ICHOS,ISAKIA TELOUS ICHIMATOS",
     "APOSTROFOI TELOUS ICHIMATOS,FANEROSIS TETRAFONIAS,FANEROSIS MONOFONIAS",
     "FANEROSIS DIFONIAS,MARTYRIA VARYS ICHOS,MARTYRIA PROTOVARYS ICHOS",
     "MARTYRIA PLAGIOS TETARTOS ICHOS,GORTHMIKON N APLOUN,GORTHMIKON N DIPLOUN",
     "ENARXIS KAI FTHORA VOU,IMIFONON,IMIFTHORON,FTHORA ARCHAION DEYTEROU ICHOU",
     "FTHORA DIATONIKI PA,FTHORA DIATONIKI NANA,FTHORA NAOS ICHOS,FTHORA DIATONIKI DI",
     "FTHORA SKLIRON DIATONON DI,FTHORA DIATONIKI KE,FTHORA DIATONIKI ZO",
     "FTHORA DIATONIKI NI KATO,FTHORA DIATONIKI NI ANO,FTHORA MALAKON CHROMA DIFONIAS",
     "FTHORA MALAKON CHROMA MONOFONIAS,FHTORA SKLIRON CHROMA VASIS",
     "FTHORA SKLIRON CHROMA SYNAFI,FTHORA NENANO,CHROA ZYGOS,CHROA KLITON,CHROA SPATHI",
     "FTHORA I YFESIS TETARTIMORION,FTHORA ENARMONIOS ANTIFONIA,YFESIS TRITIMORION",
     "DIESIS TRITIMORION,DIESIS TETARTIMORION,DIESIS APLI DYO DODEKATA",
     "DIESIS MONOGRAMMOS TESSERA DODEKATA,DIESIS DIGRAMMOS EX DODEKATA",
     "DIESIS TRIGRAMMOS OKTO DODEKATA,YFESIS APLI DYO DODEKATA",
     "YFESIS MONOGRAMMOS TESSERA DODEKATA,YFESIS DIGRAMMOS EX DODEKATA",
     "YFESIS TRIGRAMMOS OKTO DODEKATA,GENIKI DIESIS,GENIKI YFESIS,DIASTOLI APLI MIKRI",
     "DIASTOLI APLI MEGALI,DIASTOLI DIPLI,DIASTOLI THESEOS,SIMANSIS THESEOS",
     "SIMANSIS THESEOS DISIMOU,SIMANSIS THESEOS TRISIMOU,SIMANSIS THESEOS TETRASIMOU",
     "SIMANSIS ARSEOS,SIMANSIS ARSEOS DISIMOU,SIMANSIS ARSEOS TRISIMOU",
     "SIMANSIS ARSEOS TETRASIMOU,DIGRAMMA GG,DIFTOGGOS OU,STIGMA,ARKTIKO PA,ARKTIKO VOU",
     "ARKTIKO GA,ARKTIKO DI,ARKTIKO KE,ARKTIKO ZO,ARKTIKO NI,KENTIMATA NEO MESO",
     "KENTIMA NEO MESO,KENTIMATA NEO KATO,KENTIMA NEO KATO,KLASMA KATO,GORGON NEO KATO"]⟩,
  ⟨0x1d100, "MUSICAL SYMBOL ", ["SINGLE BARLINE,DOUBLE BARLINE,FINAL BARLINE",
     "REVERSE FINAL BARLINE,DASHED BARLINE,SHORT BARLINE,LEFT REPEAT SIGN,RIGHT REPEAT SIGN",
     "REPEAT DOTS,DAL SEGNO,DA CAPO,SEGNO,CODA,REPEATED FIGURE-1,REPEATED FIGURE-2",
     "REPEATED FIGURE-3,FERMATA,FERMATA BELOW,BREATH MARK,CAESURA,BRACE,BRACKET",
     "ONE-LINE STAFF,TWO-LINE STAFF,THREE-LINE STAFF,FOUR-LINE STAFF,FIVE-LINE STAFF",
     "SIX-LINE STAFF,SIX-STRING FRETBOARD,FOUR-STRING FRETBOARD,G CLEF,G CLEF OTTAVA ALTA",
     "G CLEF OTTAVA BASSA,C CLEF,F CLEF,F CLEF OTTAVA ALTA,F CLEF OTTAVA BASSA,DRUM CLEF-1",
     "DRUM CLEF-2"]⟩,
  ⟨0x1d129, "MUSICAL SYMBOL ", ["MULTIPLE MEASURE REST,DOUBLE SHARP,DOUBLE FLAT,FLAT UP",
     "FLAT DOWN,NATURAL UP,NATURAL DOWN,SHARP UP,SHARP DOWN,QUARTER TONE SHARP",
     "QUARTER TONE FLAT,COMMON TIME,CUT TIME,OTTAVA ALTA,OTTAVA BASSA,QUINDICESIMA ALTA",
     "QUINDICESIMA BASSA,MULTI REST,WHOLE REST,HALF REST,QUARTER REST,EIGHTH REST",
     "SIXTEENTH REST,THIRTY-SECOND REST,SIXTY-FOURTH REST,ONE HUNDRED TWENTY-EIGHTH REST",
     "X NOTEHEAD,PLUS NOTEHEAD,CIRCLE X NOTEHEAD,SQUARE NOTEHEAD WHITE,SQUARE NOTEHEAD BLACK"]⟩,
  ⟨0x1d148, "MUSICAL SYMBOL TRIANGLE NOTEHEAD ", ["UP WHITE,UP BLACK,LEFT WHITE,LEFT BLACK",
     "RIGHT WHITE,RIGHT BLACK,DOWN WHITE,DOWN BLACK,UP RIGHT WHITE,UP RIGHT BLACK"]⟩,
  ⟨0x1d152, "MUSICAL SYMBOL ", ["MOON NOTEHEAD WHITE,MOON NOTEHEAD BLACK",
     "TRIANGLE-ROUND NOTEHEAD DOWN WHITE,TRIANGLE-ROUND NOTEHEAD DOWN BLACK",
     "PARENTHESIS NOTEHEAD,VOID NOTEHEAD,NOTEHEAD BLACK,NULL NOTEHEAD,CLUSTER NOTEHEAD WHITE",
     "CLUSTER NOTEHEAD BLACK,BREVE,WHOLE NOTE,HALF NOTE,QUARTER NOTE,EIGHTH NOTE",
     "SIXTEENTH NOTE,THIRTY-SECOND NOTE,SIXTY-FOURTH NOTE,ONE HUNDRED TWENTY-EIGHTH NOTE",
     "COMBINING STEM,COMBINING SPRECHGESANG STEM,COMBINING TREMOLO-1,COMBINING TREMOLO-2",
     "COMBINING TREMOLO-3,FINGERED TREMOLO-1,FINGERED TREMOLO-2,FINGERED TREMOLO-3",
     "COMBINING AUGMENTATION DOT,COMBINING FLAG-1,COMBINING FLAG-2,COMBINING FLAG-3",
     "COMBINING FLAG-4,COMBINING FLAG-5,BEGIN BEAM,END BEAM,BEGIN TIE,END TIE,BEGIN SLUR",
     "END SLUR,BEGIN PHRASE,END PHRASE,COMBINING ACCENT,COMBINING STACCATO,COMBINING TENUTO",
     "COMBINING STACCATISSIMO,COMBINING MARCATO,COMBINING MARCATO-STACCATO",
     "COMBINING ACCENT-STACCATO,COMBINING LOURE,ARPEGGIATO UP,ARPEGGIATO DOWN,COMBINING DOIT",
     "COMBINING RIP,COMBINING FLIP,COMBINING SMEAR,COMBINING BEND,COMBINING DOUBLE TONGUE",
     "COMBINING TRIPLE TONGUE,RINFORZANDO,SUBITO,Z,PIANO,MEZZO,FORTE,CRESCENDO,DECRESCENDO",
     "GRACE NOTE SLASH,GRACE NOTE NO SLASH,TR,TURN,INVERTED TURN,TURN SLASH,TURN UP"]⟩,
  ⟨0x1d19b, "MUSICAL SYMBOL ORNAMENT STROKE-", ["1,2,3,4,5,6,7,8,9,10,11"]⟩,
  ⟨0x1d1a6, "MUSICAL SYMBOL ", ["HAUPTSTIMME,NEBENSTIMME,END OF STIMME,DEGREE SLASH",
     "COMBINING DOWN BOW,COMBINING UP BOW,COMBINING HARMONIC,COMBINING SNAP PIZZICATO",
     "PEDAL MARK,PEDAL UP MARK,HALF PEDAL MARK,GLISSANDO UP,GLISSANDO DOWN,WITH FINGERNAILS",
     "DAMP,DAMP ALL,MAXIMA,LONGA,BREVIS,SEMIBREVIS WHITE,SEMIBREVIS BLACK,MINIMA,MINIMA BLACK",
     "SEMIMINIMA WHITE,SEMIMINIMA BLACK,FUSA WHITE,FUSA BLACK,LONGA PERFECTA REST",
     "LONGA IMPERFECTA REST,BREVIS REST,SEMIBREVIS REST,MINIMA REST,SEMIMINIMA REST"]⟩,
  ⟨0x1d1c7, "MUSICAL SYMBOL TEMPUS PERFECTUM CUM PROLATIONE ", ["PERFECTA,IMPERFECTA",
     "PERFECTA DIMINUTION-1"]⟩,
  ⟨0x1d1ca, "MUSICAL SYMBOL TEMPUS IMPERFECTUM CUM PROLATIONE ", ["PERFECTA,IMPERFECTA",
     "IMPERFECTA DIMINUTION-1,IMPERFECTA DIMINUTION-2,IMPERFECTA DIMINUTION-3"]⟩,
  ⟨0x1d1cf, "MUSICAL SYMBOL ", ["CROIX,GREGORIAN C CLEF,GREGORIAN F CLEF,SQUARE B,VIRGA",
     "PODATUS,CLIVIS,SCANDICUS,CLIMACUS,TORCULUS,PORRECTUS,PORRECTUS FLEXUS,SCANDICUS FLEXUS",
     "TORCULUS RESUPINUS,PES SUBPUNCTIS,KIEVAN C CLEF,KIEVAN END OF PIECE,KIEVAN FINAL NOTE",
     "KIEVAN RECITATIVE MARK,KIEVAN WHOLE NOTE,KIEVAN HALF NOTE,KIEVAN QUARTER NOTE STEM DOWN",
     "KIEVAN QUARTER NOTE STEM UP,KIEVAN EIGHTH NOTE STEM DOWN,KIEVAN EIGHTH NOTE STEM UP",
     "KIEVAN FLAT SIGN,SORI,KORON"]⟩,
  ⟨0x1d200, "GREEK VOCAL NOTATION SYMBOL-", ["1,2,3,4,5,6,7,8,9,10,11,12,13,14,15,16,17,18",
     "19,20,21,22,23,24,50,51,52,53,54"]⟩,
  ⟨0x1d21d, "GREEK INSTRUMENTAL NOTATION SYMBOL-", ["1,2,4,5,7,8,11,12,13,14,17,18,19,23,24",
     "25,26,27,29,30,32,36,37,38,39,40,42,43,45,47,48,49,50,51,52,53,54"]⟩,
  ⟨0x1d242, "COMBINING GREEK MUSICAL ", ["TRISEME,TETRASEME,PENTASEME"]⟩,
  ⟨0x1d245, "", ["GREEK MUSICAL LEIMMA"]⟩,
  ⟨0x1d2e0, "MAYAN NUMERAL ", ["ZERO,ONE,TWO,THREE,FOUR,FIVE,SIX,SEVEN,EIGHT,NINE,TEN,ELEVEN",
     "TWELVE,THIRTEEN,FOURTEEN,FIFTEEN,SIXTEEN,SEVENTEEN,EIGHTEEN,NINETEEN"]⟩,
  ⟨0x1d300, "", ["MONOGRAM FOR EARTH"]⟩,
  ⟨0x1d301, "DIGRAM FOR ", ["HEAVENLY EARTH,HUMAN EARTH,EARTHLY HEAVEN,EARTHLY HUMAN,EARTH"]⟩,
  ⟨0x1d306, "TETRAGRAM FOR ", ["CENTRE,FULL CIRCLE,MIRED,BARRIER,KEEPING SMALL,CONTRARIETY",
     "ASCENT,OPPOSITION,BRANCHING OUT,DEFECTIVENESS OR DISTORTION,DIVERGENCE,YOUTHFULNESS",
     "INCREASE,PENETRATION,REACH,CONTACT,HOLDING BACK,WAITING,FOLLOWING,ADVANCE,RELEASE",
     "RESISTANCE,EASE,JOY,CONTENTION,ENDEAVOUR,DUTIES,CHANGE,DECISIVENESS,BOLD RESOLUTION",
     "PACKING,LEGION,CLOSENESS,KINSHIP,GATHERING,STRENGTH,PURITY,FULLNESS,RESIDENCE",
     "LAW OR MODEL,RESPONSE,GOING TO MEET,ENCOUNTERS,STOVE,GREATNESS,ENLARGEMENT,PATTERN",
     "RITUAL,FLIGHT,VASTNESS OR WASTING,CONSTANCY,MEASURE,ETERNITY,UNITY,DIMINISHMENT",
     "CLOSED MOUTH,GUARDEDNESS,GATHERING IN,MASSING,ACCUMULATION,EMBELLISHMENT,DOUBT,WATCH",
     "SINKING,INNER,DEPARTURE,DARKENING,DIMMING,EXHAUSTION,SEVERANCE,STOPPAGE,HARDNESS",
     "COMPLETION,CLOSURE,FAILURE,AGGRAVATION,COMPLIANCE,ON THE VERGE,DIFFICULTIES,LABOURING",
     "FOSTERING"]⟩,
  ⟨0x1d360, "COUNTING ROD UNIT DIGIT ", ["ONE,TWO,THREE,FOUR,FIVE,SIX,SEVEN,EIGHT,NINE"]⟩,
  ⟨0x1d369, "COUNTING ROD TENS DIGIT ", ["ONE,TWO,THREE,FOUR,FIVE,SIX,SEVEN,EIGHT,NINE"]⟩,
  ⟨0x1d372, "IDEOGRAPHIC TALLY MARK ", ["ONE,TWO,THREE,FOUR,FIVE"]⟩,
  ⟨0x1d377, "TALLY MARK ", ["ONE,FIVE"]⟩,
  ⟨0x1d400, "MATHEMATICAL BOLD CAPITAL ", ["A,B,C,D,E,F,G,H,I,J,K,L,M,N,O,P,Q,R,S,T,U,V,W,X",
     "Y,Z"]⟩,
  ⟨0x1d41a, "MATHEMATICAL BOLD SMALL ", ["A,B,C,D,E,F,G,H,I,J,K,L,M,N,O,P,Q,R,S,T,U,V,W,X,Y",
     "Z"]⟩,
  ⟨0x1d434, "MATHEMATICAL ITALIC CAPITAL ", ["A,B,C,D,E,F,G,H,I,J,K,L,M,N,O,P,Q,R,S,T,U,V,W",
     "X,Y,Z"]⟩,
  ⟨0x1d44e, "MATHEMATICAL ITALIC SMALL ", ["A,B,C,D,E,F,G"]⟩,
  ⟨0x1d456, "MATHEMATICAL ITALIC SMALL ", ["I,J,K,L,M,N,O,P,Q,R,S,T,U,V,W,X,Y,Z"]⟩,
  ⟨0x1d468, "MATHEMATICAL BOLD ITALIC CAPITAL ", ["A,B,C,D,E,F,G,H,I,J,K,L,M,N,O,P,Q,R,S,T,U",
     "V,W,X,Y,Z"]⟩,
  ⟨0x1d482, "MATHEMATICAL BOLD ITALIC SMALL ", ["A,B,C,D,E,F,G,H,I,J,K,L,M,N,O,P,Q,R,S,T,U,V",
     "W,X,Y,Z"]⟩,
  ⟨0x1d49c, "", ["MATHEMATICAL SCRIPT CAPITAL A"]⟩,
  ⟨0x1d49e, "MATHEMATICAL SCRIPT CAPITAL ", ["C,D"]⟩,
  ⟨0x1d4a2, "", ["MATHEMATICAL SCRIPT CAPITAL G"]⟩,
  ⟨0x1d4a5, "MATHEMATICAL SCRIPT CAPITAL ", ["J,K"]⟩,
  ⟨0x1d4a9, "MATHEMATICAL SCRIPT CAPITAL ", ["N,O,P,Q"]⟩,
  ⟨0x1d4ae, "MATHEMATICAL SCRIPT CAPITAL ", ["S,T,U,V,W,X,Y,Z"]⟩,
  ⟨0x1d4b6, "MATHEMATICAL SCRIPT SMALL ", ["A,B,C,D"]⟩,
  ⟨0x1d4bb, "", ["MATHEMATICAL SCRIPT SMALL F"]⟩,
  ⟨0x1d4bd, "MATHEMATICAL SCRIPT SMALL ", ["H,I,J,K,L,M,N"]⟩,
  ⟨0x1d4c5, "MATHEMATICAL SCRIPT SMALL ", ["P,Q,R,S,T,U,V,W,X,Y,Z"]⟩,
  ⟨0x1d4d0, "MATHEMATICAL BOLD SCRIPT CAPITAL ", ["A,B,C,D,E,F,G,H,I,J,K,L,M,N,O,P,Q,R,S,T,U",
     "V,W,X,Y,Z"]⟩,
  ⟨0x1d4ea, "MATHEMATICAL BOLD SCRIPT SMALL ", ["A,B,C,D,E,F,G,H,I,J,K,L,M,N,O,P,Q,R,S,T,U,V",
     "W,X,Y,Z"]⟩,
  ⟨0x1d504, "MATHEMATICAL FRAKTUR CAPITAL ", ["A,B"]⟩,
  ⟨0x1d507, "MATHEMATICAL FRAKTUR CAPITAL ", ["D,E,F,G"]⟩,
  ⟨0x1d50d, "MATHEMATICAL FRAKTUR CAPITAL ", ["J,K,L,M,N,O,P,Q"]⟩,
  ⟨0x1d516, "MATHEMATICAL FRAKTUR CAPITAL ", ["S,T,U,V,W,X,Y"]⟩,
  ⟨0x1d51e, "MATHEMATICAL FRAKTUR SMALL ", ["A,B,C,D,E,F,G,H,I,J,K,L,M,N,O,P,Q,R,S,T,U,V,W,X",
     "Y,Z"]⟩,
  ⟨0x1d538, "MATHEMATICAL DOUBLE-STRUCK CAPITAL ", ["A,B"]⟩,
  ⟨0x1d53b, "MATHEMATICAL DOUBLE-STRUCK CAPITAL ", ["D,E,F,G"]⟩,
  ⟨0x1d540, "MATHEMATICAL DOUBLE-STRUCK CAPITAL ", ["I,J,K,L,M"]⟩,
  ⟨0x1d546, "", ["MATHEMATICAL DOUBLE-STRUCK CAPITAL O"]⟩,
  ⟨0x1d54a, "MATHEMATICAL DOUBLE-STRUCK CAPITAL ", ["S,T,U,V,W,X,Y"]⟩,
  ⟨0x1d552, "MATHEMATICAL DOUBLE-STRUCK SMALL ", ["A,B,C,D,E,F,G,H,I,J,K,L,M,N,O,P,Q,R,S,T,U",
     "V,W,X,Y,Z"]⟩,
  ⟨0x1d56c, "MATHEMATICAL BOLD FRAKTUR CAPITAL ", ["A,B,C,D,E,F,G,H,I,J,K,L,M,N,O,P,Q,R,S,T",
     "U,V,W,X,Y,Z"]⟩,
  ⟨0x1d586, "MATHEMATICAL BOLD FRAKTUR SMALL ", ["A,B,C,D,E,F,G,H,I,J,K,L,M,N,O,P,Q,R,S,T,U",
     "V,W,X,Y,Z"]⟩,
  ⟨0x1d5a0, "MATHEMATICAL SANS-SERIF CAPITAL ", ["A,B,C,D,E,F,G,H,I,J,K,L,M,N,O,P,Q,R,S,T,U",
     "V,W,X,Y,Z"]⟩,
  ⟨0x1d5ba, "MATHEMATICAL SANS-SERIF SMALL ", ["A,B,C,D,E,F,G,H,I,J,K,L,M,N,O,P,Q,R,S,T,U,V",
     "W,X,Y,Z"]⟩,
  ⟨0x1d5d4, "MATHEMATICAL SANS-SERIF BOLD CAPITAL ", ["A,B,C,D,E,F,G,H,I,J,K,L,M,N,O,P,Q,R,S",
     "T,U,V,W,X,Y,Z"]⟩,
  ⟨0x1d5ee, "MATHEMATICAL SANS-SERIF BOLD SMALL ", ["A,B,C,D,E,F,G,H,I,J,K,L,M,N,O,P,Q,R,S,T",
     "U,V,W,X,Y,Z"]⟩,
  ⟨0x1d608, "MATHEMATICAL SANS-SERIF ITALIC CAPITAL ", ["A,B,C,D,E,F,G,H,I,J,K,L,M,N,O,P,Q,R",
     "S,T,U,V,W,X,Y,Z"]⟩,
  ⟨0x1d622, "MATHEMATICAL SANS-SERIF ITALIC SMALL ", ["A,B,C,D,E,F,G,H,I,J,K,L,M,N,O,P,Q,R,S",
     "T,U,V,W,X,Y,Z"]⟩,
  ⟨0x1d63c, "MATHEMATICAL SANS-SERIF BOLD ITALIC CAPITAL ", ["A,B,C,D,E,F,G,H,I,J,K,L,M,N,O",
     "P,Q,R,S,T,U,V,W,X,Y,Z"]⟩,
  ⟨0x1d656, "MATHEMATICAL SANS-SERIF BOLD ITALIC SMALL ", ["A,B,C,D,E,F,G,H,I,J,K,L,M,N,O,P",
     "Q,R,S,T,U,V,W,X,Y,Z"]⟩,
  ⟨0x1d670, "MATHEMATICAL MONOSPACE CAPITAL ", ["A,B,C,D,E,F,G,H,I,J,K,L,M,N,O,P,Q,R,S,T,U,V",
     "W,X,Y,Z"]⟩,
  ⟨0x1d68a, "MATHEMATICAL MONOSPACE SMALL ", ["A,B,C,D,E,F,G,H,I,J,K,L,M,N,O,P,Q,R,S,T,U,V,W",
     "X,Y,Z"]⟩,
  ⟨0x1d6a4, "MATHEMATICAL ITALIC SMALL DOTLESS ", ["I,J"]⟩,
  ⟨0x1d6a8, "MATHEMATICAL BOLD CAPITAL ", ["ALPHA,BETA,GAMMA,DELTA,EPSILON,ZETA,ETA,THETA",
     "IOTA,KAPPA,LAMDA,MU,NU,XI,OMICRON,PI,RHO,THETA SYMBOL,SIGMA,TAU,UPSILON,PHI,CHI,PSI",
     "OMEGA"]⟩,
  ⟨0x1d6c1, "", ["MATHEMATICAL BOLD NABLA"]⟩,
  ⟨0x1d6c2, "MATHEMATICAL BOLD SMALL ", ["ALPHA,BETA,GAMMA,DELTA,EPSILON,ZETA,ETA,THETA,IOTA",
     "KAPPA,LAMDA,MU,NU,XI,OMICRON,PI,RHO,FINAL SIGMA,SIGMA,TAU,UPSILON,PHI,CHI,PSI,OMEGA"]⟩,
  ⟨0x1d6db, "MATHEMATICAL BOLD ", ["PARTIAL DIFFERENTIAL,EPSILON SYMBOL,THETA SYMBOL",
     "KAPPA SYMBOL,PHI SYMBOL,RHO SYMBOL,PI SYMBOL"]⟩,
  ⟨0x1d6e2, "MATHEMATICAL ITALIC CAPITAL ", ["ALPHA,BETA,GAMMA,DELTA,EPSILON,ZETA,ETA,THETA",
     "IOTA,KAPPA,LAMDA,MU,NU,XI,OMICRON,PI,RHO,THETA SYMBOL,SIGMA,TAU,UPSILON,PHI,CHI,PSI",
     "OMEGA"]⟩,
  ⟨0x1d6fb, "", ["MATHEMATICAL ITALIC NABLA"]⟩,
  ⟨0x1d6fc, "MATHEMATICAL ITALIC SMALL ", ["ALPHA,BETA,GAMMA,DELTA,EPSILON,ZETA,ETA,THETA",
     "IOTA,KAPPA,LAMDA,MU,NU,XI,OMICRON,PI,RHO,FINAL SIGMA,SIGMA,TAU,UPSILON,PHI,CHI,PSI",
     "OMEGA"]⟩,
  ⟨0x1d715, "MATHEMATICAL ITALIC ", ["PARTIAL DIFFERENTIAL,EPSILON SYMBOL,THETA SYMBOL",
     "KAPPA SYMBOL,PHI SYMBOL,RHO SYMBOL,PI SYMBOL"]⟩,
  ⟨0x1d71c, "MATHEMATICAL BOLD ITALIC CAPITAL ", ["ALPHA,BETA,GAMMA,DELTA,EPSILON,ZETA,ETA",
     "THETA,IOTA,KAPPA,LAMDA,MU,NU,XI,OMICRON,PI,RHO,THETA SYMBOL,SIGMA,TAU,UPSILON,PHI,CHI",
     "PSI,OMEGA"]⟩,
  ⟨0x1d735, "", ["MATHEMATICAL BOLD ITALIC NABLA"]⟩,
  ⟨0x1d736, "MATHEMATICAL BOLD ITALIC SMALL ", ["ALPHA,BETA,GAMMA,DELTA,EPSILON,ZETA,ETA",
     "THETA,IOTA,KAPPA,LAMDA,MU,NU,XI,OMICRON,PI,RHO,FINAL SIGMA,SIGMA,TAU,UPSILON,PHI,CHI",
     "PSI,OMEGA"]⟩,
  ⟨0x1d74f, "MATHEMATICAL BOLD ITALIC ", ["PARTIAL DIFFERENTIAL,EPSILON SYMBOL,THETA SYMBOL",
     "KAPPA SYMBOL,PHI SYMBOL,RHO SYMBOL,PI SYMBOL"]⟩,
  ⟨0x1d756, "MATHEMATICAL SANS-SERIF BOLD CAPITAL ", ["ALPHA,BETA,GAMMA,DELTA,EPSILON,ZETA",
     "ETA,THETA,IOTA,KAPPA,LAMDA,MU,NU,XI,OMICRON,PI,RHO,THETA SYMBOL,SIGMA,TAU,UPSILON,PHI",
     "CHI,PSI,OMEGA"]⟩,
  ⟨0x1d76f, "", ["MATHEMATICAL SANS-SERIF BOLD NABLA"]⟩,
  ⟨0x1d770, "MATHEMATICAL SANS-SERIF BOLD SMALL ", ["ALPHA,BETA,GAMMA,DELTA,EPSILON,ZETA,ETA",
     "THETA,IOTA,KAPPA,LAMDA,MU,NU,XI,OMICRON,PI,RHO,FINAL SIGMA,SIGMA,TAU,UPSILON,PHI,CHI",
     "PSI,OMEGA"]⟩,
  ⟨0x1d789, "MATHEMATICAL SANS-SERIF BOLD ", ["PARTIAL DIFFERENTIAL,EPSILON SYMBOL",
     "THETA SYMBOL,KAPPA SYMBOL,PHI SYMBOL,RHO SYMBOL,PI SYMBOL"]⟩,
  ⟨0x1d790, "MATHEMATICAL SANS-SERIF BOLD ITALIC CAPITAL ", ["ALPHA,BETA,GAMMA,DELTA,EPSILON",
     "ZETA,ETA,THETA,IOTA,KAPPA,LAMDA,MU,NU,XI,OMICRON,PI,RHO,THETA SYMBOL,SIGMA,TAU,UPSILON",
     "PHI,CHI,PSI,OMEGA"]⟩,
  ⟨0x1d7a9, "", ["MATHEMATICAL SANS-SERIF BOLD ITALIC NABLA"]⟩,
  ⟨0x1d7aa, "MATHEMATICAL SANS-SERIF BOLD ITALIC SMALL ", ["ALPHA,BETA,GAMMA,DELTA,EPSILON",
     "ZETA,ETA,THETA,IOTA,KAPPA,LAMDA,MU,NU,XI,OMICRON,PI,RHO,FINAL SIGMA,SIGMA,TAU,UPSILON",
     "PHI,CHI,PSI,OMEGA"]⟩,
  ⟨0x1d7c3, "MATHEMATICAL SANS-SERIF BOLD ITALIC ", ["PARTIAL DIFFERENTIAL,EPSILON SYMBOL",
     "THETA SYMBOL,KAPPA SYMBOL,PHI SYMBOL,RHO SYMBOL,PI SYMBOL"]⟩,
  ⟨0x1d7ca, "MATHEMATICAL BOLD ", ["CAPITAL DIGAMMA,SMALL DIGAMMA"]⟩,
  ⟨0x1d7ce, "MATHEMATICAL BOLD DIGIT ", ["ZERO,ONE,TWO,THREE,FOUR,FIVE,SIX,SEVEN,EIGHT,NINE"]⟩,
  ⟨0x1d7d8, "MATHEMATICAL DOUBLE-STRUCK DIGIT ", ["ZERO,ONE,TWO,THREE,FOUR,FIVE,SIX,SEVEN",
     "EIGHT,NINE"]⟩,
  ⟨0x1d7e2, "MATHEMATICAL SANS-SERIF DIGIT ", ["ZERO,ONE,TWO,THREE,FOUR,FIVE,SIX,SEVEN,EIGHT",
     "NINE"]⟩,
  ⟨0x1d7ec, "MATHEMATICAL SANS-SERIF BOLD DIGIT ", ["ZERO,ONE,TWO,THREE,FOUR,FIVE,SIX,SEVEN",
     "EIGHT,NINE"]⟩,
  ⟨0x1d7f6, "MATHEMATICAL MONOSPACE DIGIT ", ["ZERO,ONE,TWO,THREE,FOUR,FIVE,SIX,SEVEN,EIGHT",
     "NINE"]⟩,
  ⟨0x1d800, "SIGNWRITING HAND-", ["FIST INDEX,CIRCLE INDEX,CUP INDEX,OVAL INDEX,HINGE INDEX",
     "ANGLE INDEX,FIST INDEX BENT,CIRCLE INDEX BENT,FIST THUMB UNDER INDEX BENT",
     "FIST INDEX RAISED KNUCKLE,FIST INDEX CUPPED,FIST INDEX HINGED,FIST INDEX HINGED LOW",
     "CIRCLE INDEX HINGE,FIST INDEX MIDDLE,CIRCLE INDEX MIDDLE"]⟩,
  ⟨0x1d810, "SIGNWRITING HAND-FIST INDEX ", ["MIDDLE BENT,MIDDLE RAISED KNUCKLES",
     "MIDDLE HINGED,UP MIDDLE HINGED,HINGED MIDDLE UP,MIDDLE CONJOINED",
     "MIDDLE CONJOINED INDEX BENT,MIDDLE CONJOINED MIDDLE BENT,MIDDLE CONJOINED CUPPED",
     "MIDDLE CONJOINED HINGED,MIDDLE CROSSED"]⟩,
  ⟨0x1d81b, "SIGNWRITING HAND-", ["CIRCLE INDEX MIDDLE CROSSED,FIST MIDDLE BENT OVER INDEX",
     "FIST INDEX BENT OVER MIDDLE,FIST INDEX MIDDLE THUMB,CIRCLE INDEX MIDDLE THUMB"]⟩,
  ⟨0x1d820, "SIGNWRITING HAND-FIST INDEX ", ["MIDDLE STRAIGHT THUMB BENT",
     "MIDDLE BENT THUMB STRAIGHT,MIDDLE THUMB BENT,MIDDLE HINGED SPREAD THUMB SIDE",
     "UP MIDDLE HINGED THUMB SIDE,UP MIDDLE HINGED THUMB CONJOINED",
     "HINGED MIDDLE UP THUMB SIDE,MIDDLE UP SPREAD THUMB FORWARD,MIDDLE THUMB CUPPED",
     "MIDDLE THUMB CIRCLED,MIDDLE THUMB HOOKED,MIDDLE THUMB HINGED"]⟩,
  ⟨0x1d82c, "SIGNWRITING HAND-FIST ", ["THUMB BETWEEN INDEX MIDDLE STRAIGHT",
     "INDEX MIDDLE CONJOINED THUMB SIDE,INDEX MIDDLE CONJOINED THUMB SIDE CONJOINED",
     "INDEX MIDDLE CONJOINED THUMB SIDE BENT,MIDDLE THUMB HOOKED INDEX UP",
     "INDEX THUMB HOOKED MIDDLE UP,INDEX MIDDLE CONJOINED HINGED THUMB SIDE",
     "INDEX MIDDLE CROSSED THUMB SIDE,INDEX MIDDLE CONJOINED THUMB FORWARD",
     "INDEX MIDDLE CONJOINED CUPPED THUMB FORWARD,MIDDLE THUMB CUPPED INDEX UP",
     "INDEX THUMB CUPPED MIDDLE UP,MIDDLE THUMB CIRCLED INDEX UP",
     "MIDDLE THUMB CIRCLED INDEX HINGED,INDEX THUMB ANGLED OUT MIDDLE UP",
     "INDEX THUMB ANGLED IN MIDDLE UP,INDEX THUMB CIRCLED MIDDLE UP",
     "INDEX MIDDLE THUMB CONJOINED HINGED,INDEX MIDDLE THUMB ANGLED OUT",
     "INDEX MIDDLE THUMB ANGLED,MIDDLE THUMB ANGLED OUT INDEX UP",
     "MIDDLE THUMB ANGLED OUT INDEX CROSSED,MIDDLE THUMB ANGLED INDEX UP",
     "INDEX THUMB HOOKED MIDDLE HINGED"]⟩,
  ⟨0x1d844, "SIGNWRITING HAND-FLAT FOUR ", ["FINGERS,FINGERS BENT,FINGERS HINGED",
     "FINGERS CONJOINED,FINGERS CONJOINED SPLIT"]⟩,
  ⟨0x1d849, "SIGNWRITING HAND-", ["CLAW FOUR FINGERS CONJOINED",
     "FIST FOUR FINGERS CONJOINED BENT,HINGE FOUR FINGERS CONJOINED,FLAT FIVE FINGERS SPREAD",
     "FLAT HEEL FIVE FINGERS SPREAD,FLAT FIVE FINGERS SPREAD FOUR BENT",
     "FLAT HEEL FIVE FINGERS SPREAD FOUR BENT,FLAT FIVE FINGERS SPREAD BENT",
     "FLAT HEEL FIVE FINGERS SPREAD BENT,FLAT FIVE FINGERS SPREAD THUMB FORWARD",
     "CUP FIVE FINGERS SPREAD,CUP FIVE FINGERS SPREAD OPEN,HINGE FIVE FINGERS SPREAD OPEN",
     "OVAL FIVE FINGERS SPREAD,FLAT FIVE FINGERS SPREAD HINGED",
     "FLAT FIVE FINGERS SPREAD HINGED THUMB SIDE,FLAT FIVE FINGERS SPREAD HINGED NO THUMB",
     "FLAT,FLAT BETWEEN PALM FACINGS,FLAT HEEL,FLAT THUMB SIDE,FLAT HEEL THUMB SIDE",
     "FLAT THUMB BENT,FLAT THUMB FORWARD,FLAT SPLIT INDEX THUMB SIDE,FLAT SPLIT CENTRE",
     "FLAT SPLIT CENTRE THUMB SIDE,FLAT SPLIT CENTRE THUMB SIDE BENT,FLAT SPLIT LITTLE,CLAW",
     "CLAW THUMB SIDE,CLAW NO THUMB,CLAW THUMB FORWARD,HOOK CURLICUE,HOOK,CUP OPEN,CUP",
     "CUP OPEN THUMB SIDE,CUP THUMB SIDE,CUP OPEN NO THUMB,CUP NO THUMB",
     "CUP OPEN THUMB FORWARD,CUP THUMB FORWARD,CURLICUE OPEN,CURLICUE,CIRCLE,OVAL",
     "OVAL THUMB SIDE,OVAL NO THUMB,OVAL THUMB FORWARD,HINGE OPEN,HINGE OPEN THUMB FORWARD",
     "HINGE,HINGE SMALL,HINGE OPEN THUMB SIDE,HINGE THUMB SIDE,HINGE OPEN NO THUMB",
     "HINGE NO THUMB,HINGE THUMB SIDE TOUCHING INDEX,HINGE THUMB BETWEEN MIDDLE RING,ANGLE",
     "FIST INDEX MIDDLE RING,CIRCLE INDEX MIDDLE RING,HINGE INDEX MIDDLE RING",
     "ANGLE INDEX MIDDLE RING,HINGE LITTLE,FIST INDEX MIDDLE RING BENT",
     "FIST INDEX MIDDLE RING CONJOINED,HINGE INDEX MIDDLE RING CONJOINED,FIST LITTLE DOWN",
     "FIST LITTLE DOWN RIPPLE STRAIGHT,FIST LITTLE DOWN RIPPLE CURVED",
     "FIST LITTLE DOWN OTHERS CIRCLED,FIST LITTLE UP,FIST THUMB UNDER LITTLE UP",
     "CIRCLE LITTLE UP,OVAL LITTLE UP,ANGLE LITTLE UP,FIST LITTLE RAISED KNUCKLE",
     "FIST LITTLE BENT,FIST LITTLE TOUCHES THUMB,FIST LITTLE THUMB,HINGE LITTLE THUMB",
     "FIST LITTLE INDEX THUMB,HINGE LITTLE INDEX THUMB",
     "ANGLE LITTLE INDEX THUMB INDEX THUMB OUT,ANGLE LITTLE INDEX THUMB INDEX THUMB",
     "FIST LITTLE INDEX,CIRCLE LITTLE INDEX,HINGE LITTLE INDEX,ANGLE LITTLE INDEX",
     "FIST INDEX MIDDLE LITTLE,CIRCLE INDEX MIDDLE LITTLE,HINGE INDEX MIDDLE LITTLE",
     "HINGE RING,ANGLE INDEX MIDDLE LITTLE,FIST INDEX MIDDLE CROSS LITTLE",
     "CIRCLE INDEX MIDDLE CROSS LITTLE,FIST RING DOWN,HINGE RING DOWN INDEX THUMB HOOK MIDDLE",
     "ANGLE RING DOWN MIDDLE THUMB INDEX CROSS,FIST RING UP,FIST RING RAISED KNUCKLE",
     "FIST RING LITTLE,CIRCLE RING LITTLE,OVAL RING LITTLE,ANGLE RING LITTLE,FIST RING MIDDLE",
     "FIST RING MIDDLE CONJOINED,FIST RING MIDDLE RAISED KNUCKLES,FIST RING INDEX",
     "FIST RING THUMB,HOOK RING THUMB,FIST INDEX RING LITTLE,CIRCLE INDEX RING LITTLE",
     "CURLICUE INDEX RING LITTLE ON,HOOK INDEX RING LITTLE OUT,HOOK INDEX RING LITTLE IN",
     "HOOK INDEX RING LITTLE UNDER,CUP INDEX RING LITTLE,HINGE INDEX RING LITTLE",
     "ANGLE INDEX RING LITTLE OUT,ANGLE INDEX RING LITTLE,FIST MIDDLE DOWN,HINGE MIDDLE",
     "FIST MIDDLE UP,CIRCLE MIDDLE UP,FIST MIDDLE RAISED KNUCKLE,FIST MIDDLE UP THUMB SIDE",
     "HOOK MIDDLE THUMB,FIST MIDDLE THUMB LITTLE,FIST MIDDLE LITTLE,FIST MIDDLE RING LITTLE",
     "CIRCLE MIDDLE RING LITTLE,CURLICUE MIDDLE RING LITTLE ON,CUP MIDDLE RING LITTLE",
     "HINGE MIDDLE RING LITTLE,ANGLE MIDDLE RING LITTLE OUT,ANGLE MIDDLE RING LITTLE IN",
     "ANGLE MIDDLE RING LITTLE,CIRCLE MIDDLE RING LITTLE BENT",
     "CLAW MIDDLE RING LITTLE CONJOINED,CLAW MIDDLE RING LITTLE CONJOINED SIDE",
     "HOOK MIDDLE RING LITTLE CONJOINED OUT,HOOK MIDDLE RING LITTLE CONJOINED IN",
     "HOOK MIDDLE RING LITTLE CONJOINED,HINGE INDEX HINGED,FIST INDEX THUMB SIDE",
     "HINGE INDEX THUMB SIDE"]⟩,
  ⟨0x1d8de, "SIGNWRITING HAND-FIST INDEX THUMB ", ["SIDE THUMB DIAGONAL,SIDE THUMB CONJOINED",
     "SIDE THUMB BENT,SIDE INDEX BENT,SIDE BOTH BENT,SIDE INDEX HINGE,FORWARD INDEX STRAIGHT",
     "FORWARD INDEX BENT,HOOK,CURLICUE,CURVE THUMB INSIDE"]⟩,
  ⟨0x1d8e9, "SIGNWRITING HAND-", ["CLAW INDEX THUMB CURVE THUMB INSIDE",
     "FIST INDEX THUMB CURVE THUMB UNDER,FIST INDEX THUMB CIRCLE,CUP INDEX THUMB",
     "CUP INDEX THUMB OPEN,HINGE INDEX THUMB OPEN,HINGE INDEX THUMB LARGE,HINGE INDEX THUMB",
     "HINGE INDEX THUMB SMALL,ANGLE INDEX THUMB OUT,ANGLE INDEX THUMB IN,ANGLE INDEX THUMB",
     "FIST THUMB"]⟩,
  ⟨0x1d8f6, "SIGNWRITING HAND-FIST THUMB ", ["HEEL,SIDE DIAGONAL,SIDE CONJOINED,SIDE BENT",
     "FORWARD,BETWEEN INDEX MIDDLE,BETWEEN MIDDLE RING,BETWEEN RING LITTLE,UNDER TWO FINGERS",
     "OVER TWO FINGERS,UNDER THREE FINGERS,UNDER FOUR FINGERS,OVER FOUR RAISED KNUCKLES"]⟩,
  ⟨0x1d903, "SIGNWRITING ", ["HAND-FIST,HAND-FIST HEEL,TOUCH SINGLE,TOUCH MULTIPLE",
     "TOUCH BETWEEN,GRASP SINGLE,GRASP MULTIPLE,GRASP BETWEEN,STRIKE SINGLE,STRIKE MULTIPLE",
     "STRIKE BETWEEN,BRUSH SINGLE,BRUSH MULTIPLE,BRUSH BETWEEN,RUB SINGLE,RUB MULTIPLE",
     "RUB BETWEEN,SURFACE SYMBOLS,SURFACE BETWEEN,SQUEEZE LARGE SINGLE,SQUEEZE SMALL SINGLE",
     "SQUEEZE LARGE MULTIPLE,SQUEEZE SMALL MULTIPLE,SQUEEZE SEQUENTIAL,FLICK LARGE SINGLE",
     "FLICK SMALL SINGLE,FLICK LARGE MULTIPLE,FLICK SMALL MULTIPLE,FLICK SEQUENTIAL",
     "SQUEEZE FLICK ALTERNATING"]⟩,
  ⟨0x1d921, "SIGNWRITING MOVEMENT-", ["HINGE UP DOWN LARGE,HINGE UP DOWN SMALL",
     "HINGE UP SEQUENTIAL,HINGE DOWN SEQUENTIAL,HINGE UP DOWN ALTERNATING LARGE",
     "HINGE UP DOWN ALTERNATING SMALL,HINGE SIDE TO SIDE SCISSORS,WALLPLANE FINGER CONTACT",
     "FLOORPLANE FINGER CONTACT"]⟩,
  ⟨0x1d92a, "SIGNWRITING MOVEMENT-WALLPLANE ", ["SINGLE STRAIGHT SMALL",
     "SINGLE STRAIGHT MEDIUM,SINGLE STRAIGHT LARGE,SINGLE STRAIGHT LARGEST,SINGLE WRIST FLEX",
     "DOUBLE STRAIGHT,DOUBLE WRIST FLEX,DOUBLE ALTERNATING,DOUBLE ALTERNATING WRIST FLEX",
     "CROSS,TRIPLE STRAIGHT MOVEMENT,TRIPLE WRIST FLEX,TRIPLE ALTERNATING",
     "TRIPLE ALTERNATING WRIST FLEX,BEND SMALL,BEND MEDIUM,BEND LARGE,CORNER SMALL",
     "CORNER MEDIUM,CORNER LARGE,CORNER ROTATION,CHECK SMALL,CHECK MEDIUM,CHECK LARGE",
     "BOX SMALL,BOX MEDIUM,BOX LARGE,ZIGZAG SMALL,ZIGZAG MEDIUM,ZIGZAG LARGE,PEAKS SMALL",
     "PEAKS MEDIUM,PEAKS LARGE"]⟩,
  ⟨0x1d94b, "SIGNWRITING TRAVEL-WALLPLANE ", ["ROTATION-WALLPLANE SINGLE",
     "ROTATION-WALLPLANE DOUBLE,ROTATION-WALLPLANE ALTERNATING,ROTATION-FLOORPLANE SINGLE",
     "ROTATION-FLOORPLANE DOUBLE,ROTATION-FLOORPLANE ALTERNATING,SHAKING,ARM SPIRAL SINGLE",
     "ARM SPIRAL DOUBLE,ARM SPIRAL TRIPLE"]⟩,
  ⟨0x1d955, "SIGNWRITING MOVEMENT-DIAGONAL ", ["AWAY SMALL,AWAY MEDIUM,AWAY LARGE",
     "AWAY LARGEST,TOWARDS SMALL,TOWARDS MEDIUM,TOWARDS LARGE,TOWARDS LARGEST"]⟩,
  ⟨0x1d95d, "SIGNWRITING MOVEMENT-DIAGONAL BETWEEN ", ["AWAY SMALL,AWAY MEDIUM,AWAY LARGE",
     "AWAY LARGEST,TOWARDS SMALL,TOWARDS MEDIUM,TOWARDS LARGE,TOWARDS LARGEST"]⟩,
  ⟨0x1d965, "SIGNWRITING MOVEMENT-FLOORPLANE ", ["SINGLE STRAIGHT SMALL",
     "SINGLE STRAIGHT MEDIUM,SINGLE STRAIGHT LARGE,SINGLE STRAIGHT LARGEST,SINGLE WRIST FLEX",
     "DOUBLE STRAIGHT,DOUBLE WRIST FLEX,DOUBLE ALTERNATING,DOUBLE ALTERNATING WRIST FLEX",
     "CROSS,TRIPLE STRAIGHT MOVEMENT,TRIPLE WRIST FLEX,TRIPLE ALTERNATING MOVEMENT",
     "TRIPLE ALTERNATING WRIST FLEX,BEND,CORNER SMALL,CORNER MEDIUM,CORNER LARGE,CHECK",
     "BOX SMALL,BOX MEDIUM,BOX LARGE,ZIGZAG SMALL,ZIGZAG MEDIUM,ZIGZAG LARGE,PEAKS SMALL",
     "PEAKS MEDIUM,PEAKS LARGE"]⟩,
  ⟨0x1d981, "SIGNWRITING TRAVEL-FLOORPLANE ", ["ROTATION-FLOORPLANE SINGLE",
     "ROTATION-FLOORPLANE DOUBLE,ROTATION-FLOORPLANE ALTERNATING,ROTATION-WALLPLANE SINGLE",
     "ROTATION-WALLPLANE DOUBLE,ROTATION-WALLPLANE ALTERNATING,SHAKING"]⟩,
  ⟨0x1d988, "SIGNWRITING MOVEMENT-WALLPLANE CURVE ", ["QUARTER SMALL,QUARTER MEDIUM",
     "QUARTER LARGE,QUARTER LARGEST,HALF-CIRCLE SMALL,HALF-CIRCLE MEDIUM,HALF-CIRCLE LARGE",
     "HALF-CIRCLE LARGEST,THREE-QUARTER CIRCLE SMALL,THREE-QUARTER CIRCLE MEDIUM"]⟩,
  ⟨0x1d992, "SIGNWRITING MOVEMENT-WALLPLANE ", ["HUMP SMALL,HUMP MEDIUM,HUMP LARGE",
     "LOOP SMALL,LOOP MEDIUM,LOOP LARGE,LOOP SMALL DOUBLE,WAVE CURVE DOUBLE SMALL",
     "WAVE CURVE DOUBLE MEDIUM,WAVE CURVE DOUBLE LARGE,WAVE CURVE TRIPLE SMALL",
     "WAVE CURVE TRIPLE MEDIUM,WAVE CURVE TRIPLE LARGE,CURVE THEN STRAIGHT,CURVED CROSS SMALL",
     "CURVED CROSS MEDIUM"]⟩,
  ⟨0x1d9a2, "SIGNWRITING ROTATION-WALLPLANE ", ["SINGLE,DOUBLE,ALTERNATE"]⟩,
  ⟨0x1d9a5, "SIGNWRITING MOVEMENT-WALLPLANE ", ["SHAKING,CURVE HITTING FRONT WALL",
     "HUMP HITTING FRONT WALL,LOOP HITTING FRONT WALL,WAVE HITTING FRONT WALL"]⟩,
  ⟨0x1d9aa, "SIGNWRITING ROTATION-WALLPLANE ", ["SINGLE HITTING FRONT WALL",
     "DOUBLE HITTING FRONT WALL,ALTERNATING HITTING FRONT WALL"]⟩,
  ⟨0x1d9ad, "SIGNWRITING MOVEMENT-WALLPLANE ", ["CURVE HITTING CHEST,HUMP HITTING CHEST",
     "LOOP HITTING CHEST,WAVE HITTING CHEST"]⟩,
  ⟨0x1d9b1, "SIGNWRITING ROTATION-WALLPLANE ", ["SINGLE HITTING CHEST,DOUBLE HITTING CHEST",
     "ALTERNATING HITTING CHEST"]⟩,
  ⟨0x1d9b4, "SIGNWRITING MOVEMENT-WALLPLANE WAVE DIAGONAL PATH ", ["SMALL,MEDIUM,LARGE"]⟩,
  ⟨0x1d9b7, "SIGNWRITING MOVEMENT-FLOORPLANE CURVE HITTING CEILING ", ["SMALL,LARGE"]⟩,
  ⟨0x1d9b9, "SIGNWRITING MOVEMENT-FLOORPLANE HUMP HITTING CEILING ", ["SMALL DOUBLE",
     "LARGE DOUBLE,SMALL TRIPLE,LARGE TRIPLE"]⟩,
  ⟨0x1d9bd, "SIGNWRITING MOVEMENT-FLOORPLANE LOOP HITTING CEILING ", ["SMALL SINGLE",
     "LARGE SINGLE,SMALL DOUBLE,LARGE DOUBLE"]⟩,
  ⟨0x1d9c1, "SIGNWRITING MOVEMENT-FLOORPLANE WAVE HITTING CEILING ", ["SMALL,LARGE"]⟩,
  ⟨0x1d9c3, "SIGNWRITING ROTATION-FLOORPLANE ", ["SINGLE HITTING CEILING",
     "DOUBLE HITTING CEILING,ALTERNATING HITTING CEILING"]⟩,
  ⟨0x1d9c6, "SIGNWRITING MOVEMENT-FLOORPLANE ", ["CURVE HITTING FLOOR SMALL",
     "CURVE HITTING FLOOR LARGE,HUMP HITTING FLOOR SMALL DOUBLE",
     "HUMP HITTING FLOOR LARGE DOUBLE,HUMP HITTING FLOOR TRIPLE SMALL TRIPLE",
     "HUMP HITTING FLOOR TRIPLE LARGE TRIPLE,LOOP HITTING FLOOR SMALL SINGLE",
     "LOOP HITTING FLOOR LARGE SINGLE,LOOP HITTING FLOOR SMALL DOUBLE",
     "LOOP HITTING FLOOR LARGE DOUBLE,WAVE HITTING FLOOR SMALL,WAVE HITTING FLOOR LARGE"]⟩,
  ⟨0x1d9d2, "SIGNWRITING ROTATION-FLOORPLANE ", ["SINGLE HITTING FLOOR,DOUBLE HITTING FLOOR",
     "ALTERNATING HITTING FLOOR"]⟩,
  ⟨0x1d9d5, "SIGNWRITING MOVEMENT-FLOORPLANE ", ["CURVE SMALL,CURVE MEDIUM,CURVE LARGE",
     "CURVE LARGEST,CURVE COMBINED,HUMP SMALL,LOOP SMALL,WAVE SNAKE,WAVE SMALL,WAVE LARGE"]⟩,
  ⟨0x1d9df, "SIGNWRITING ROTATION-FLOORPLANE ", ["SINGLE,DOUBLE,ALTERNATING"]⟩,
  ⟨0x1d9e2, "", ["SIGNWRITING MOVEMENT-FLOORPLANE SHAKING PARALLEL"]⟩,
  ⟨0x1d9e3, "SIGNWRITING MOVEMENT-WALLPLANE ARM CIRCLE ", ["SMALL SINGLE,MEDIUM SINGLE",
     "SMALL DOUBLE,MEDIUM DOUBLE"]⟩,
  ⟨0x1d9e7, "SIGNWRITING MOVEMENT-FLOORPLANE ARM CIRCLE HITTING WALL ", ["SMALL SINGLE",
     "MEDIUM SINGLE,LARGE SINGLE,SMALL DOUBLE,MEDIUM DOUBLE,LARGE DOUBLE"]⟩,
  ⟨0x1d9ed, "SIGNWRITING MOVEMENT-WALLPLANE WRIST CIRCLE FRONT ", ["SINGLE,DOUBLE"]⟩,
  ⟨0x1d9ef, "SIGNWRITING MOVEMENT-FLOORPLANE WRIST CIRCLE HITTING WALL ", ["SINGLE,DOUBLE"]⟩,
  ⟨0x1d9f1, "SIGNWRITING MOVEMENT-WALLPLANE FINGER CIRCLES ", ["SINGLE,DOUBLE"]⟩,
  ⟨0x1d9f3, "SIGNWRITING MOVEMENT-FLOORPLANE FINGER CIRCLES HITTING WALL ", ["SINGLE,DOUBLE"]⟩,
  ⟨0x1d9f5, "SIGNWRITING DYNAMIC ", ["ARROWHEAD SMALL,ARROWHEAD LARGE,FAST,SLOW,TENSE",
     "RELAXED,SIMULTANEOUS,SIMULTANEOUS ALTERNATING,EVERY OTHER TIME,GRADUAL"]⟩,
  ⟨0x1d9ff, "SIGNWRITING ", ["HEAD,HEAD RIM,HEAD MOVEMENT-WALLPLANE STRAIGHT",
     "HEAD MOVEMENT-WALLPLANE TILT,HEAD MOVEMENT-FLOORPLANE STRAIGHT",
     "HEAD MOVEMENT-WALLPLANE CURVE,HEAD MOVEMENT-FLOORPLANE CURVE,HEAD MOVEMENT CIRCLE"]⟩,
  ⟨0x1da07, "SIGNWRITING FACE DIRECTION POSITION NOSE ", ["FORWARD TILTING,UP OR DOWN",
     "UP OR DOWN TILTING"]⟩,
  ⟨0x1da0a, "SIGNWRITING EYEBROWS STRAIGHT ", ["UP,NEUTRAL,DOWN"]⟩,
  ⟨0x1da0d, "SIGNWRITING DREAMY EYEBROWS ", ["NEUTRAL DOWN,DOWN NEUTRAL,UP NEUTRAL",
     "NEUTRAL UP"]⟩,
  ⟨0x1da11, "SIGNWRITING ", ["FOREHEAD NEUTRAL,FOREHEAD CONTACT,FOREHEAD WRINKLED,EYES OPEN",
     "EYES SQUEEZED,EYES CLOSED,EYE BLINK SINGLE,EYE BLINK MULTIPLE,EYES HALF OPEN",
     "EYES WIDE OPEN,EYES HALF CLOSED,EYES WIDENING MOVEMENT,EYE WINK,EYELASHES UP",
     "EYELASHES DOWN,EYELASHES FLUTTERING,EYEGAZE-WALLPLANE STRAIGHT",
     "EYEGAZE-WALLPLANE STRAIGHT DOUBLE,EYEGAZE-WALLPLANE STRAIGHT ALTERNATING",
     "EYEGAZE-FLOORPLANE STRAIGHT,EYEGAZE-FLOORPLANE STRAIGHT DOUBLE",
     "EYEGAZE-FLOORPLANE STRAIGHT ALTERNATING,EYEGAZE-WALLPLANE CURVED",
     "EYEGAZE-FLOORPLANE CURVED,EYEGAZE-WALLPLANE CIRCLING,CHEEKS PUFFED,CHEEKS NEUTRAL",
     "CHEEKS SUCKED,TENSE CHEEKS HIGH,TENSE CHEEKS MIDDLE,TENSE CHEEKS LOW,EARS,NOSE NEUTRAL",
     "NOSE CONTACT,NOSE WRINKLES,NOSE WIGGLES,AIR BLOWING OUT,AIR SUCKING IN",
     "AIR BLOW SMALL ROTATIONS,AIR SUCK SMALL ROTATIONS,BREATH INHALE,BREATH EXHALE"]⟩,
  ⟨0x1da3b, "SIGNWRITING MOUTH ", ["CLOSED NEUTRAL,CLOSED FORWARD,CLOSED CONTACT,SMILE",
     "SMILE WRINKLED,SMILE OPEN,FROWN,FROWN WRINKLED,FROWN OPEN,OPEN CIRCLE,OPEN FORWARD",
     "OPEN WRINKLED,OPEN OVAL,OPEN OVAL WRINKLED,OPEN OVAL YAWN,OPEN RECTANGLE",
     "OPEN RECTANGLE WRINKLED,OPEN RECTANGLE YAWN,KISS,KISS FORWARD,KISS WRINKLED,TENSE",
     "TENSE FORWARD,TENSE SUCKED"]⟩,
  ⟨0x1da53, "SIGNWRITING ", ["LIPS PRESSED TOGETHER,LIP LOWER OVER UPPER",
     "LIP UPPER OVER LOWER,MOUTH CORNERS,MOUTH WRINKLES SINGLE,MOUTH WRINKLES DOUBLE",
     "TONGUE STICKING OUT FAR,TONGUE LICKING LIPS,TONGUE TIP BETWEEN LIPS",
     "TONGUE TIP TOUCHING INSIDE MOUTH,TONGUE INSIDE MOUTH RELAXED,TONGUE MOVES AGAINST CHEEK",
     "TONGUE CENTRE STICKING OUT,TONGUE CENTRE INSIDE MOUTH,TEETH,TEETH MOVEMENT",
     "TEETH ON TONGUE,TEETH ON TONGUE MOVEMENT,TEETH ON LIPS,TEETH ON LIPS MOVEMENT",
     "TEETH BITE LIPS,MOVEMENT-WALLPLANE JAW,MOVEMENT-FLOORPLANE JAW,NECK,HAIR,EXCITEMENT",
     "SHOULDER HIP SPINE,SHOULDER HIP POSITIONS,WALLPLANE SHOULDER HIP MOVE",
     "FLOORPLANE SHOULDER HIP MOVE,SHOULDER TILTING FROM WAIST",
     "TORSO-WALLPLANE STRAIGHT STRETCH,TORSO-WALLPLANE CURVED BEND,TORSO-FLOORPLANE TWISTING",
     "UPPER BODY TILTING FROM HIP JOINTS,LIMB COMBINATION"]⟩,
  ⟨0x1da77, "SIGNWRITING LIMB LENGTH-", ["1,2,3,4,5,6,7"]⟩,
  ⟨0x1da7e, "SIGNWRITING ", ["FINGER,LOCATION-WALLPLANE SPACE,LOCATION-FLOORPLANE SPACE",
     "LOCATION HEIGHT,LOCATION WIDTH,LOCATION DEPTH,LOCATION HEAD NECK,LOCATION TORSO",
     "LOCATION LIMBS DIGITS,COMMA,FULL STOP,SEMICOLON,COLON,PARENTHESIS"]⟩,
  ⟨0x1da9b, "SIGNWRITING FILL MODIFIER-", ["2,3,4,5,6"]⟩,
  ⟨0x1daa1, "SIGNWRITING ROTATION MODIFIER-", ["2,3,4,5,6,7,8,9,10,11,12,13,14,15,16"]⟩,
  ⟨0x1df00, "LATIN ", ["SMALL LETTER FENG DIGRAPH WITH TRILL,SMALL LETTER REVERSED SCRIPT G",
     "LETTER SMALL CAPITAL TURNED G,SMALL LETTER REVERSED K,LETTER SMALL CAPITAL L WITH BELT",
     "SMALL LETTER LEZH WITH RETROFLEX HOOK,SMALL LETTER TURNED Y WITH BELT",
     "SMALL LETTER REVERSED ENG,SMALL LETTER TURNED R WITH LONG LEG AND RETROFLEX HOOK",
     "SMALL LETTER T WITH HOOK AND RETROFLEX HOOK,LETTER RETROFLEX CLICK WITH RETROFLEX HOOK",
     "SMALL LETTER ESH WITH DOUBLE BAR,SMALL LETTER ESH WITH DOUBLE BAR AND CURL",
     "SMALL LETTER TURNED T WITH CURL,LETTER INVERTED GLOTTAL STOP WITH CURL",
     "LETTER STRETCHED C WITH CURL,LETTER SMALL CAPITAL TURNED K"]⟩,
  ⟨0x1df11, "LATIN SMALL LETTER ", ["L WITH FISHHOOK,DEZH DIGRAPH WITH PALATAL HOOK",
     "L WITH BELT AND PALATAL HOOK,ENG WITH PALATAL HOOK,TURNED R WITH PALATAL HOOK",
     "R WITH FISHHOOK AND PALATAL HOOK,TESH DIGRAPH WITH PALATAL HOOK,EZH WITH PALATAL HOOK",
     "DEZH DIGRAPH WITH RETROFLEX HOOK,I WITH STROKE AND RETROFLEX HOOK,O WITH RETROFLEX HOOK",
     "TESH DIGRAPH WITH RETROFLEX HOOK,C WITH RETROFLEX HOOK,S WITH CURL"]⟩,
  ⟨0x1e000, "COMBINING GLAGOLITIC LETTER ", ["AZU,BUKY,VEDE,GLAGOLI,DOBRO,YESTU,ZHIVETE"]⟩,
  ⟨0x1e008, "COMBINING GLAGOLITIC LETTER ", ["ZEMLJA,IZHE,INITIAL IZHE,I,DJERVI,KAKO,LJUDIJE",
     "MYSLITE,NASHI,ONU,POKOJI,RITSI,SLOVO,TVRIDO,UKU,FRITU,HERU"]⟩,
  ⟨0x1e01b, "COMBINING GLAGOLITIC LETTER ", ["SHTA,TSI,CHRIVI,SHA,YERU,YERI,YATI"]⟩,
  ⟨0x1e023, "COMBINING GLAGOLITIC LETTER ", ["YU,SMALL YUS"]⟩,
  ⟨0x1e026, "COMBINING GLAGOLITIC LETTER ", ["YO,IOTATED SMALL YUS,BIG YUS,IOTATED BIG YUS",
     "FITA"]⟩,
  ⟨0x1e100, "NYIAKENG PUACHUE HMONG LETTER ", ["MA,TSA,NTA,TA,HA,NA,XA,NKA,CA,LA,SA,ZA,NCA",
     "NTSA,KA,DA,NYA,NRA,VA,NTXA,TXA,FA,RA,QA,YA,NQA,PA,XYA,NPA,DLA,NPLA,HAH,MLA,PLA,GA,RRA,A",
     "AA,I,U,O,OO,E,EE,W"]⟩,
  ⟨0x1e130, "NYIAKENG PUACHUE HMONG ", ["TONE-B,TONE-M,TONE-J,TONE-V,TONE-S,TONE-G,TONE-D",
     "SIGN FOR PERSON,SIGN FOR THING,SIGN FOR LOCATION,SIGN FOR ANIMAL,SIGN FOR INVERTEBRATE",
     "SIGN XW XW,SYLLABLE LENGTHENER"]⟩,
  ⟨0x1e140, "NYIAKENG PUACHUE HMONG DIGIT ", ["ZERO,ONE,TWO,THREE,FOUR,FIVE,SIX,SEVEN,EIGHT",
     "NINE"]⟩,
  ⟨0x1e14e, "NYIAKENG PUACHUE HMONG ", ["LOGOGRAM NYAJ,CIRCLED CA"]⟩,
  ⟨0x1e290, "TOTO LETTER ", ["PA,BA,TA,DA,KA,GA,MA,NA,NGA,SA,CHA,YA,WA,JA,HA,RA,LA,I",
     "BREATHY I,IU,BREATHY IU,U,E,BREATHY E,EO,BREATHY EO,O,AE,BREATHY AE,A"]⟩,
  ⟨0x1e2ae, "", ["TOTO SIGN RISING TONE"]⟩,
  ⟨0x1e2c0, "WANCHO LETTER ", ["AA,A,BA,CA,DA,GA,YA,PHA,LA,NA,PA,TA,THA,FA,SA,SHA,JA,ZA,WA",
     "VA,KA,O,AU,RA,MA,KHA,HA,E,I,NGA,U,LLHA,TSA,TRA,ONG,AANG,ANG,ING,ON,EN,AAN,NYA,UEN,YIH"]⟩,
  ⟨0x1e2ec, "WANCHO TONE ", ["TUP,TUPNI,KOI,KOINI"]⟩,
  ⟨0x1e2f0, "WANCHO DIGIT ", ["ZERO,ONE,TWO,THREE,FOUR,FIVE,SIX,SEVEN,EIGHT,NINE"]⟩,
  ⟨0x1e2ff, "", ["WANCHO NGUN SIGN"]⟩,
  ⟨0x1e7e0, "ETHIOPIC SYLLABLE ", ["HHYA,HHYU,HHYI,HHYAA,HHYEE,HHYE,HHYO"]⟩,
  ⟨0x1e7e8, "ETHIOPIC SYLLABLE ", ["GURAGE HHWA,HHWI,HHWEE,HHWE"]⟩,
  ⟨0x1e7ed, "ETHIOPIC SYLLABLE GURAGE ", ["MWI,MWEE"]⟩,
  ⟨0x1e7f0, "ETHIOPIC SYLLABLE GURAGE ", ["QWI,QWEE,QWE,BWI,BWEE,KWI,KWEE,KWE,GWI,GWEE,GWE",
     "FWI,FWEE,PWI,PWEE"]⟩,
  ⟨0x1e800, "MENDE KIKAKUI SYLLABLE ", ["M001 KI,M002 KA,M003 KU,M065 KEE,M095 KE,M076 KOO",
     "M048 KO,M179 KUA,M004 WI,M005 WA,M006 WU,M126 WEE,M118 WE,M114 WOO,M045 WO,M194 WUI",
     "M143 WEI,M061 WVI,M049 WVA,M139 WVE,M007 MIN,M008 MAN,M009 MUN,M059 MEN,M094 MON",
     "M154 MUAN,M189 MUEN,M010 BI,M011 BA,M012 BU,M150 BEE,M097 BE,M103 BOO,M138 BO,M013 I",
     "M014 A,M015 U,M163 EE,M100 E,M165 OO,M147 O,M137 EI,M131 IN,M135 IN,M195 AN,M178 EN",
     "M019 SI,M020 SA,M021 SU,M162 SEE,M116 SE,M136 SOO,M079 SO,M196 SIA,M025 LI,M026 LA",
     "M027 LU,M084 LEE,M073 LE,M054 LOO,M153 LO,M110 LONG LE,M016 DI,M017 DA,M018 DU,M089 DEE",
     "M180 DOO,M181 DO,M022 TI,M023 TA,M024 TU,M091 TEE,M055 TE,M104 TOO,M069 TO,M028 JI",
     "M029 JA,M030 JU,M157 JEE,M113 JE,M160 JOO,M063 JO,M175 LONG JO,M031 YI,M032 YA,M033 YU",
     "M109 YEE,M080 YE,M141 YOO,M121 YO,M034 FI,M035 FA,M036 FU,M078 FEE,M075 FE,M133 FOO",
     "M088 FO,M197 FUA,M101 FAN,M037 NIN,M038 NAN,M039 NUN,M117 NEN,M169 NON,M176 HI,M041 HA",
     "M186 HU,M040 HEE,M096 HE,M042 HOO,M140 HO,M083 HEEI,M128 HOOU,M053 HIN,M130 HAN",
     "M087 HUN,M052 HEN,M193 HON,M046 HUAN,M090 NGGI,M043 NGGA,M082 NGGU,M115 NGGEE,M146 NGGE",
     "M156 NGGOO,M120 NGGO,M159 NGGAA,M127 NGGUA,M086 LONG NGGE,M106 LONG NGGOO",
     "M183 LONG NGGO,M155 GI,M111 GA,M168 GU,M190 GEE,M166 GUEI,M167 GUAN,M184 NGEN,M057 NGON",
     "M177 NGUAN,M068 PI,M099 PA,M050 PU,M081 PEE,M051 PE,M102 POO,M066 PO,M145 MBI,M062 MBA",
     "M122 MBU,M047 MBEE,M188 MBEE,M072 MBE,M172 MBOO,M174 MBO,M187 MBUU,M161 LONG MBE",
     "M105 LONG MBOO,M142 LONG MBO,M132 KPI,M092 KPA,M074 KPU,M044 KPEE,M108 KPE,M112 KPOO",
     "M158 KPO,M124 GBI,M056 GBA,M148 GBU,M093 GBEE,M107 GBE,M071 GBOO,M070 GBO,M171 RA",
     "M123 NDI,M129 NDA,M125 NDU,M191 NDEE,M119 NDE,M067 NDOO,M064 NDO,M152 NJA,M192 NJU",
     "M149 NJEE,M134 NJOO,M182 VI,M185 VA,M151 VU,M173 VEE,M085 VE,M144 VOO,M077 VO,M164 NYIN",
     "M058 NYAN,M170 NYUN,M098 NYEN,M060 NYON"]⟩,
  ⟨0x1e8c7, "MENDE KIKAKUI DIGIT ", ["ONE,TWO,THREE,FOUR,FIVE,SIX,SEVEN,EIGHT,NINE"]⟩,
  ⟨0x1e8d0, "MENDE KIKAKUI COMBINING NUMBER ", ["TEENS,TENS,HUNDREDS,THOUSANDS,TEN THOUSANDS",
     "HUNDRED THOUSANDS,MILLIONS"]⟩,
  ⟨0x1e900, "ADLAM CAPITAL LETTER ", ["ALIF,DAALI,LAAM,MIIM,BA,SINNYIIYHE,PE,BHE,RA,E,FA,I,O",
     "DHA,YHE,WAW,NUN,KAF,YA,U,JIIM,CHI,HA,QAAF,GA,NYA,TU,NHA,VA,KHA,GBE,ZAL,KPO,SHA"]⟩,
  ⟨0x1e922, "ADLAM SMALL LETTER ", ["ALIF,DAALI,LAAM,MIIM,BA,SINNYIIYHE,PE,BHE,RA,E,FA,I,O",
     "DHA,YHE,WAW,NUN,KAF,YA,U,JIIM,CHI,HA,QAAF,GA,NYA,TU,NHA,VA,KHA,GBE,ZAL,KPO,SHA"]⟩,
  ⟨0x1e944, "ADLAM ", ["ALIF LENGTHENER,VOWEL LENGTHENER,GEMINATION MARK,HAMZA",
     "CONSONANT MODIFIER,GEMINATE CONSONANT MODIFIER,NUKTA,NASALIZATION MARK"]⟩,
  ⟨0x1e950, "ADLAM DIGIT ", ["ZERO,ONE,TWO,THREE,FOUR,FIVE,SIX,SEVEN,EIGHT,NINE"]⟩,
  ⟨0x1e95e, "ADLAM INITIAL ", ["EXCLAMATION MARK,QUESTION MARK"]⟩,
  ⟨0x1ec71, "INDIC SIYAQ NUMBER ", ["ONE,TWO,THREE,FOUR,FIVE,SIX,SEVEN,EIGHT,NINE,TEN,TWENTY",
     "THIRTY,FORTY,FIFTY,SIXTY,SEVENTY,EIGHTY,NINETY,ONE HUNDRED,TWO HUNDRED,THREE HUNDRED",
     "FOUR HUNDRED,FIVE HUNDRED,SIX HUNDRED,SEVEN HUNDRED,EIGHT HUNDRED,NINE HUNDRED",
     "ONE THOUSAND,TWO THOUSAND,THREE THOUSAND,FOUR THOUSAND,FIVE THOUSAND,SIX THOUSAND",
     "SEVEN THOUSAND,EIGHT THOUSAND,NINE THOUSAND,TEN THOUSAND,TWENTY THOUSAND",
     "THIRTY THOUSAND,FORTY THOUSAND,FIFTY THOUSAND,SIXTY THOUSAND,SEVENTY THOUSAND",
     "EIGHTY THOUSAND,NINETY THOUSAND,LAKH,LAKHAN"]⟩,
  ⟨0x1eca0, "INDIC SIYAQ ", ["LAKH MARK,NUMBER KAROR,NUMBER KARORAN"]⟩,
  ⟨0x1eca3, "INDIC SIYAQ NUMBER PREFIXED ", ["ONE,TWO,THREE,FOUR,FIVE,SIX,SEVEN,EIGHT,NINE"]⟩,
  ⟨0x1ecac, "INDIC SIYAQ ", ["PLACEHOLDER,FRACTION ONE QUARTER,FRACTION ONE HALF",
     "FRACTION THREE QUARTERS,RUPEE MARK,NUMBER ALTERNATE ONE,NUMBER ALTERNATE TWO",
     "NUMBER ALTERNATE TEN THOUSAND,ALTERNATE LAKH MARK"]⟩,
  ⟨0x1ed01, "OTTOMAN SIYAQ NUMBER ", ["ONE,TWO,THREE,FOUR,FIVE,SIX,SEVEN,EIGHT,NINE,TEN",
     "TWENTY,THIRTY,FORTY,FIFTY,SIXTY,SEVENTY,EIGHTY,NINETY,ONE HUNDRED,TWO HUNDRED",
     "THREE HUNDRED,FOUR HUNDRED,FIVE HUNDRED,SIX HUNDRED,SEVEN HUNDRED,EIGHT HUNDRED",
     "NINE HUNDRED,ONE THOUSAND,TWO THOUSAND,THREE THOUSAND,FOUR THOUSAND,FIVE THOUSAND",
     "SIX THOUSAND,SEVEN THOUSAND,EIGHT THOUSAND,NINE THOUSAND,TEN THOUSAND,TWENTY THOUSAND",
     "THIRTY THOUSAND,FORTY THOUSAND,FIFTY THOUSAND,SIXTY THOUSAND,SEVENTY THOUSAND",
     "EIGHTY THOUSAND,NINETY THOUSAND"]⟩,
  ⟨0x1ed2e, "", ["OTTOMAN SIYAQ MARRATAN"]⟩,
  ⟨0x1ed2f, "OTTOMAN SIYAQ ALTERNATE NUMBER ", ["TWO,THREE,FOUR,FIVE,SIX,SEVEN,EIGHT,NINE",
     "TEN,FOUR HUNDRED,SIX HUNDRED,TWO THOUSAND,TEN THOUSAND"]⟩,
  ⟨0x1ed3c, "OTTOMAN SIYAQ FRACTION ONE ", ["HALF,SIXTH"]⟩,
  ⟨0x1ee00, "ARABIC MATHEMATICAL ", ["ALEF,BEH,JEEM,DAL"]⟩,
  ⟨0x1ee05, "ARABIC MATHEMATICAL ", ["WAW,ZAIN,HAH,TAH,YEH,KAF,LAM,MEEM,NOON,SEEN,AIN,FEH",
     "SAD,QAF,REH,SHEEN,TEH,THEH,KHAH,THAL,DAD,ZAH,GHAIN,DOTLESS BEH,DOTLESS NOON,DOTLESS FEH",
     "DOTLESS QAF"]⟩,
  ⟨0x1ee21, "ARABIC MATHEMATICAL INITIAL ", ["BEH,JEEM"]⟩,
  ⟨0x1ee24, "", ["ARABIC MATHEMATICAL INITIAL HEH"]⟩,
  ⟨0x1ee27, "", ["ARABIC MATHEMATICAL INITIAL HAH"]⟩,
  ⟨0x1ee29, "ARABIC MATHEMATICAL INITIAL ", ["YEH,KAF,LAM,MEEM,NOON,SEEN,AIN,FEH,SAD,QAF"]⟩,
  ⟨0x1ee34, "ARABIC MATHEMATICAL INITIAL ", ["SHEEN,TEH,THEH,KHAH"]⟩,
  ⟨0x1ee39, "", ["ARABIC MATHEMATICAL INITIAL DAD"]⟩,
  ⟨0x1ee3b, "", ["ARABIC MATHEMATICAL INITIAL GHAIN"]⟩,
  ⟨0x1ee42, "", ["ARABIC MATHEMATICAL TAILED JEEM"]⟩,
  ⟨0x1ee47, "", ["ARABIC MATHEMATICAL TAILED HAH"]⟩,
  ⟨0x1ee49, "", ["ARABIC MATHEMATICAL TAILED YEH"]⟩,
  ⟨0x1ee4b, "", ["ARABIC MATHEMATICAL TAILED LAM"]⟩,
  ⟨0x1ee4d, "ARABIC MATHEMATICAL TAILED ", ["NOON,SEEN,AIN"]⟩,
  ⟨0x1ee51, "ARABIC MATHEMATICAL TAILED ", ["SAD,QAF"]⟩,
  ⟨0x1ee54, "", ["ARABIC MATHEMATICAL TAILED SHEEN"]⟩,
  ⟨0x1ee57, "", ["ARABIC MATHEMATICAL TAILED KHAH"]⟩,
  ⟨0x1ee59, "", ["ARABIC MATHEMATICAL TAILED DAD"]⟩,
  ⟨0x1ee5b, "", ["ARABIC MATHEMATICAL TAILED GHAIN"]⟩,
  ⟨0x1ee5d, "", ["ARABIC MATHEMATICAL TAILED DOTLESS NOON"]⟩,
  ⟨0x1ee5f, "", ["ARABIC MATHEMATICAL TAILED DOTLESS QAF"]⟩,
  ⟨0x1ee61, "ARABIC MATHEMATICAL STRETCHED ", ["BEH,JEEM"]⟩,
  ⟨0x1ee64, "", ["ARABIC MATHEMATICAL STRETCHED HEH"]⟩,
  ⟨0x1ee67, "ARABIC MATHEMATICAL STRETCHED ", ["HAH,TAH,YEH,KAF"]⟩,
  ⟨0x1ee6c, "ARABIC MATHEMATICAL STRETCHED ", ["MEEM,NOON,SEEN,AIN,FEH,SAD,QAF"]⟩,
  ⟨0x1ee74, "ARABIC MATHEMATICAL STRETCHED ", ["SHEEN,TEH,THEH,KHAH"]⟩,
  ⟨0x1ee79, "ARABIC MATHEMATICAL STRETCHED ", ["DAD,ZAH,GHAIN,DOTLESS BEH"]⟩,
  ⟨0x1ee7e, "", ["ARABIC MATHEMATICAL STRETCHED DOTLESS FEH"]⟩,
  ⟨0x1ee80, "ARABIC MATHEMATICAL LOOPED ", ["ALEF,BEH,JEEM,DAL,HEH,WAW,ZAIN,HAH,TAH,YEH"]⟩,
  ⟨0x1ee8b, "ARABIC MATHEMATICAL LOOPED ", ["LAM,MEEM,NOON,SEEN,AIN,FEH,SAD,QAF,REH,SHEEN",
     "TEH,THEH,KHAH,THAL,DAD,ZAH,GHAIN"]⟩,
  ⟨0x1eea1, "ARABIC MATHEMATICAL DOUBLE-STRUCK ", ["BEH,JEEM,DAL"]⟩,
  ⟨0x1eea5, "ARABIC MATHEMATICAL DOUBLE-STRUCK ", ["WAW,ZAIN,HAH,TAH,YEH"]⟩,
  ⟨0x1eeab, "ARABIC MATHEMATICAL DOUBLE-STRUCK ", ["LAM,MEEM,NOON,SEEN,AIN,FEH,SAD,QAF,REH",
     "SHEEN,TEH,THEH,KHAH,THAL,DAD,ZAH,GHAIN"]⟩,
  ⟨0x1eef0, "ARABIC MATHEMATICAL OPERATOR ", ["MEEM WITH HAH WITH TATWEEL,HAH WITH DAL"]⟩,
  ⟨0x1f000, "MAHJONG TILE ", ["EAST WIND,SOUTH WIND,WEST WIND,NORTH WIND,RED DRAGON",
     "GREEN DRAGON,WHITE DRAGON,ONE OF CHARACTERS,TWO OF CHARACTERS,THREE OF CHARACTERS",
     "FOUR OF CHARACTERS,FIVE OF CHARACTERS,SIX OF CHARACTERS,SEVEN OF CHARACTERS",
     "EIGHT OF CHARACTERS,NINE OF CHARACTERS,ONE OF BAMBOOS,TWO OF BAMBOOS,THREE OF BAMBOOS",
     "FOUR OF BAMBOOS,FIVE OF BAMBOOS,SIX OF BAMBOOS,SEVEN OF BAMBOOS,EIGHT OF BAMBOOS",
     "NINE OF BAMBOOS,ONE OF CIRCLES,TWO OF CIRCLES,THREE OF CIRCLES,FOUR OF CIRCLES",
     "FIVE OF CIRCLES,SIX OF CIRCLES,SEVEN OF CIRCLES,EIGHT OF CIRCLES,NINE OF CIRCLES,PLUM",
     "ORCHID,BAMBOO,CHRYSANTHEMUM,SPRING,SUMMER,AUTUMN,WINTER,JOKER,BACK"]⟩,
  ⟨0x1f030, "", ["DOMINO TILE HORIZONTAL BACK"]⟩,
  ⟨0x1f031, "DOMINO TILE HORIZONTAL-", ["00-00,00-01,00-02,00-03,00-04,00-05,00-06,01-00",
     "01-01,01-02,01-03,01-04,01-05,01-06,02-00,02-01,02-02,02-03,02-04,02-05,02-06,03-00",
     "03-01,03-02,03-03,03-04,03-05,03-06,04-00,04-01,04-02,04-03,04-04,04-05,04-06,05-00",
     "05-01,05-02,05-03,05-04,05-05,05-06,06-00,06-01,06-02,06-03,06-04,06-05,06-06"]⟩,
  ⟨0x1f062, "", ["DOMINO TILE VERTICAL BACK"]⟩,
  ⟨0x1f063, "DOMINO TILE VERTICAL-", ["00-00,00-01,00-02,00-03,00-04,00-05,00-06,01-00,01-01",
     "01-02,01-03,01-04,01-05,01-06,02-00,02-01,02-02,02-03,02-04,02-05,02-06,03-00,03-01",
     "03-02,03-03,03-04,03-05,03-06,04-00,04-01,04-02,04-03,04-04,04-05,04-06,05-00,05-01",
     "05-02,05-03,05-04,05-05,05-06,06-00,06-01,06-02,06-03,06-04,06-05,06-06"]⟩,
  ⟨0x1f0a0, "PLAYING CARD ", ["BACK,ACE OF SPADES,TWO OF SPADES,THREE OF SPADES",
     "FOUR OF SPADES,FIVE OF SPADES,SIX OF SPADES,SEVEN OF SPADES,EIGHT OF SPADES",
     "NINE OF SPADES,TEN OF SPADES,JACK OF SPADES,KNIGHT OF SPADES,QUEEN OF SPADES",
     "KING OF SPADES"]⟩,
  ⟨0x1f0b1, "PLAYING CARD ", ["ACE OF HEARTS,TWO OF HEARTS,THREE OF HEARTS,FOUR OF HEARTS",
     "FIVE OF HEARTS,SIX OF HEARTS,SEVEN OF HEARTS,EIGHT OF HEARTS,NINE OF HEARTS",
     "TEN OF HEARTS,JACK OF HEARTS,KNIGHT OF HEARTS,QUEEN OF HEARTS,KING OF HEARTS,RED JOKER"]⟩,
  ⟨0x1f0c1, "PLAYING CARD ", ["ACE OF DIAMONDS,TWO OF DIAMONDS,THREE OF DIAMONDS",
     "FOUR OF DIAMONDS,FIVE OF DIAMONDS,SIX OF DIAMONDS,SEVEN OF DIAMONDS,EIGHT OF DIAMONDS",
     "NINE OF DIAMONDS,TEN OF DIAMONDS,JACK OF DIAMONDS,KNIGHT OF DIAMONDS,QUEEN OF DIAMONDS",
     "KING OF DIAMONDS,BLACK JOKER"]⟩,
  ⟨0x1f0d1, "PLAYING CARD ", ["ACE OF CLUBS,TWO OF CLUBS,THREE OF CLUBS,FOUR OF CLUBS",
     "FIVE OF CLUBS,SIX OF CLUBS,SEVEN OF CLUBS,EIGHT OF CLUBS,NINE OF CLUBS,TEN OF CLUBS",
     "JACK OF CLUBS,KNIGHT OF CLUBS,QUEEN OF CLUBS,KING OF CLUBS,WHITE JOKER,FOOL"]⟩,
  ⟨0x1f0e1, "PLAYING CARD TRUMP-", ["1,2,3,4,5,6,7,8,9,10,11,12,13,14,15,16,17,18,19,20,21"]⟩,
  ⟨0x1f100, "DIGIT ", ["ZERO FULL STOP,ZERO COMMA,ONE COMMA,TWO COMMA,THREE COMMA,FOUR COMMA",
     "FIVE COMMA,SIX COMMA,SEVEN COMMA,EIGHT COMMA,NINE COMMA"]⟩,
  ⟨0x1f10b, "DINGBAT ", ["CIRCLED SANS-SERIF DIGIT ZERO",
     "NEGATIVE CIRCLED SANS-SERIF DIGIT ZERO"]⟩,
  ⟨0x1f10d, "CIRCLED ", ["ZERO WITH SLASH,ANTICLOCKWISE ARROW",
     "DOLLAR SIGN WITH OVERLAID BACKSLASH"]⟩,
  ⟨0x1f110, "PARENTHESIZED LATIN CAPITAL LETTER ", ["A,B,C,D,E,F,G,H,I,J,K,L,M,N,O,P,Q,R,S,T",
     "U,V,W,X,Y,Z"]⟩,
  ⟨0x1f12a, "", ["TORTOISE SHELL BRACKETED LATIN CAPITAL LETTER S",
     "CIRCLED ITALIC LATIN CAPITAL LETTER C,CIRCLED ITALIC LATIN CAPITAL LETTER R,CIRCLED CD",
     "CIRCLED WZ,COPYLEFT SYMBOL"]⟩,
  ⟨0x1f130, "SQUARED LATIN CAPITAL LETTER ", ["A,B,C,D,E,F,G,H,I,J,K,L,M,N,O,P,Q,R,S,T,U,V,W",
     "X,Y,Z"]⟩,
  ⟨0x1f14a, "SQUARED ", ["HV,MV,SD,SS,PPV,WC"]⟩,
  ⟨0x1f150, "NEGATIVE CIRCLED LATIN CAPITAL LETTER ", ["A,B,C,D,E,F,G,H,I,J,K,L,M,N,O,P,Q,R",
     "S,T,U,V,W,X,Y,Z"]⟩,
  ⟨0x1f16a, "RAISED ", ["MC SIGN,MD SIGN,MR SIGN"]⟩,
  ⟨0x1f16d, "CIRCLED ", ["CC,C WITH OVERLAID BACKSLASH,HUMAN FIGURE"]⟩,
  ⟨0x1f170, "NEGATIVE SQUARED LATIN CAPITAL LETTER ", ["A,B,C,D,E,F,G,H,I,J,K,L,M,N,O,P,Q,R",
     "S,T,U,V,W,X,Y,Z"]⟩,
  ⟨0x1f18a, "", ["CROSSED NEGATIVE SQUARED LATIN CAPITAL LETTER P"]⟩,
  ⟨0x1f18b, "NEGATIVE SQUARED ", ["IC,PA,SA,AB,WC"]⟩,
  ⟨0x1f190, "", ["SQUARE DJ"]⟩,
  ⟨0x1f191, "SQUARED ", ["CL,COOL,FREE,ID,NEW,NG,OK,SOS,UP WITH EXCLAMATION MARK,VS,THREE D",
     "SECOND SCREEN,TWO K,FOUR K,EIGHT K,FIVE POINT ONE,SEVEN POINT ONE,TWENTY-TWO POINT TWO",
     "SIXTY P,ONE HUNDRED TWENTY P,LATIN SMALL LETTER D,HC,HDR,HI-RES,LOSSLESS,SHV,UHD,VOD"]⟩,
  ⟨0x1f1ad, "", ["MASK WORK SYMBOL"]⟩,
  ⟨0x1f1e6, "REGIONAL INDICATOR SYMBOL LETTER ", ["A,B,C,D,E,F,G,H,I,J,K,L,M,N,O,P,Q,R,S,T,U",
     "V,W,X,Y,Z"]⟩,
  ⟨0x1f200, "", ["SQUARE HIRAGANA HOKA,SQUARED KATAKANA KOKO,SQUARED KATAKANA SA"]⟩,
  ⟨0x1f210, "SQUARED CJK UNIFIED IDEOGRAPH-", ["624B,5B57,53CC"]⟩,
  ⟨0x1f213, "", ["SQUARED KATAKANA DE"]⟩,
  ⟨0x1f214, "SQUARED CJK UNIFIED IDEOGRAPH-", ["4E8C,591A,89E3,5929,4EA4,6620,7121,6599,524D",
     "5F8C,518D,65B0,521D,7D42,751F,8CA9,58F0,5439,6F14,6295,6355,4E00,4E09,904A,5DE6,4E2D",
     "53F3,6307,8D70,6253,7981,7A7A,5408,6E80,6709,6708,7533,5272,55B6,914D"]⟩,
  ⟨0x1f240, "TORTOISE SHELL BRACKETED CJK UNIFIED IDEOGRAPH-", ["672C,4E09,4E8C,5B89,70B9",
     "6253,76D7,52DD,6557"]⟩,
  ⟨0x1f250, "CIRCLED IDEOGRAPH ", ["ADVANTAGE,ACCEPT"]⟩,
  ⟨0x1f260, "ROUNDED SYMBOL FOR ", ["FU,LU,SHOU,XI,SHUANGXI,CAI"]⟩,
  ⟨0x1f300, "", ["CYCLONE,FOGGY,CLOSED UMBRELLA,NIGHT WITH STARS,SUNRISE OVER MOUNTAINS",
     "SUNRISE,CITYSCAPE AT DUSK,SUNSET OVER BUILDINGS,RAINBOW,BRIDGE AT NIGHT,WATER WAVE",
     "VOLCANO,MILKY WAY,EARTH GLOBE EUROPE-AFRICA,EARTH GLOBE AMERICAS",
     "EARTH GLOBE ASIA-AUSTRALIA,GLOBE WITH MERIDIANS,NEW MOON SYMBOL",
     "WAXING CRESCENT MOON SYMBOL,FIRST QUARTER MOON SYMBOL,WAXING GIBBOUS MOON SYMBOL",
     "FULL MOON SYMBOL,WANING GIBBOUS MOON SYMBOL,LAST QUARTER MOON SYMBOL",
     "WANING CRESCENT MOON SYMBOL,CRESCENT MOON,NEW MOON WITH FACE",
     "FIRST QUARTER MOON WITH FACE,LAST QUARTER MOON WITH FACE,FULL MOON WITH FACE",
     "SUN WITH FACE,GLOWING STAR,SHOOTING STAR,THERMOMETER,BLACK DROPLET,WHITE SUN",
     "WHITE SUN WITH SMALL CLOUD,WHITE SUN BEHIND CLOUD,WHITE SUN BEHIND CLOUD WITH RAIN",
     "CLOUD WITH RAIN,CLOUD WITH SNOW,CLOUD WITH LIGHTNING,CLOUD WITH TORNADO,FOG",
     "WIND BLOWING FACE,HOT DOG,TACO,BURRITO,CHESTNUT,SEEDLING,EVERGREEN TREE,DECIDUOUS TREE",
     "PALM TREE,CACTUS,HOT PEPPER,TULIP,CHERRY BLOSSOM,ROSE,HIBISCUS,SUNFLOWER,BLOSSOM",
     "EAR OF MAIZE,EAR OF RICE,HERB,FOUR LEAF CLOVER,MAPLE LEAF,FALLEN LEAF",
     "LEAF FLUTTERING IN WIND,MUSHROOM,TOMATO,AUBERGINE,GRAPES,MELON,WATERMELON,TANGERINE",
     "LEMON,BANANA,PINEAPPLE,RED APPLE,GREEN APPLE,PEAR,PEACH,CHERRIES,STRAWBERRY,HAMBURGER",
     "SLICE OF PIZZA,MEAT ON BONE,POULTRY LEG,RICE CRACKER,RICE BALL,COOKED RICE",
     "CURRY AND RICE,STEAMING BOWL,SPAGHETTI,BREAD,FRENCH FRIES,ROASTED SWEET POTATO,DANGO",
     "ODEN,SUSHI,FRIED SHRIMP,FISH CAKE WITH SWIRL DESIGN,SOFT ICE CREAM,SHAVED ICE,ICE CREAM",
     "DOUGHNUT,COOKIE,CHOCOLATE BAR,CANDY,LOLLIPOP,CUSTARD,HONEY POT,SHORTCAKE,BENTO BOX",
     "POT OF FOOD,COOKING,FORK AND KNIFE,TEACUP WITHOUT HANDLE,SAKE BOTTLE AND CUP,WINE GLASS",
     "COCKTAIL GLASS,TROPICAL DRINK,BEER MUG,CLINKING BEER MUGS,BABY BOTTLE",
     "FORK AND KNIFE WITH PLATE,BOTTLE WITH POPPING CORK,POPCORN,RIBBON,WRAPPED PRESENT",
     "BIRTHDAY CAKE,JACK-O-LANTERN,CHRISTMAS TREE,FATHER CHRISTMAS,FIREWORKS",
     "FIREWORK SPARKLER,BALLOON,PARTY POPPER,CONFETTI BALL,TANABATA TREE,CROSSED FLAGS",
     "PINE DECORATION,JAPANESE DOLLS,CARP STREAMER,WIND CHIME,MOON VIEWING CEREMONY",
     "SCHOOL SATCHEL,GRADUATION CAP,HEART WITH TIP ON THE LEFT,BOUQUET OF FLOWERS",
     "MILITARY MEDAL,REMINDER RIBBON,MUSICAL KEYBOARD WITH JACKS,STUDIO MICROPHONE",
     "LEVEL SLIDER,CONTROL KNOBS,BEAMED ASCENDING MUSICAL NOTES",
     "BEAMED DESCENDING MUSICAL NOTES,FILM FRAMES,ADMISSION TICKETS,CAROUSEL HORSE",
     "FERRIS WHEEL,ROLLER COASTER,FISHING POLE AND FISH,MICROPHONE,MOVIE CAMERA,CINEMA",
     "HEADPHONE,ARTIST PALETTE,TOP HAT,CIRCUS TENT,TICKET,CLAPPER BOARD,PERFORMING ARTS",
     "VIDEO GAME,DIRECT HIT,SLOT MACHINE,BILLIARDS,GAME DIE,BOWLING,FLOWER PLAYING CARDS",
     "MUSICAL NOTE,MULTIPLE MUSICAL NOTES,SAXOPHONE,GUITAR,MUSICAL KEYBOARD,TRUMPET,VIOLIN",
     "MUSICAL SCORE,RUNNING SHIRT WITH SASH,TENNIS RACQUET AND BALL,SKI AND SKI BOOT",
     "BASKETBALL AND HOOP,CHEQUERED FLAG,SNOWBOARDER,RUNNER,SURFER,SPORTS MEDAL,TROPHY",
     "HORSE RACING,AMERICAN FOOTBALL,RUGBY FOOTBALL,SWIMMER,WEIGHT LIFTER,GOLFER",
     "RACING MOTORCYCLE,RACING CAR,CRICKET BAT AND BALL,VOLLEYBALL",
     "FIELD HOCKEY STICK AND BALL,ICE HOCKEY STICK AND PUCK,TABLE TENNIS PADDLE AND BALL",
     "SNOW CAPPED MOUNTAIN,CAMPING,BEACH WITH UMBRELLA,BUILDING CONSTRUCTION,HOUSE BUILDINGS",
     "CITYSCAPE,DERELICT HOUSE BUILDING,CLASSICAL BUILDING,DESERT,DESERT ISLAND,NATIONAL PARK",
     "STADIUM,HOUSE BUILDING,HOUSE WITH GARDEN,OFFICE BUILDING,JAPANESE POST OFFICE",
     "EUROPEAN POST OFFICE,HOSPITAL,BANK,AUTOMATED TELLER MACHINE,HOTEL,LOVE HOTEL",
     "CONVENIENCE STORE,SCHOOL,DEPARTMENT STORE,FACTORY,IZAKAYA LANTERN,JAPANESE CASTLE",
     "EUROPEAN CASTLE,WHITE PENNANT,BLACK PENNANT,WAVING WHITE FLAG,WAVING BLACK FLAG,ROSETTE",
     "BLACK ROSETTE,LABEL,BADMINTON RACQUET AND SHUTTLECOCK,BOW AND ARROW,AMPHORA"]⟩,
  ⟨0x1f3fb, "EMOJI MODIFIER FITZPATRICK TYPE-", ["1-2,3,4,5,6"]⟩,
  ⟨0x1f400, "", ["RAT,MOUSE,OX,WATER BUFFALO,COW,TIGER,LEOPARD,RABBIT,CAT,DRAGON,CROCODILE",
     "WHALE,SNAIL,SNAKE,HORSE,RAM,GOAT,SHEEP,MONKEY,ROOSTER,CHICKEN,DOG,PIG,BOAR,ELEPHANT",
     "OCTOPUS,SPIRAL SHELL,BUG,ANT,HONEYBEE,LADY BEETLE,FISH,TROPICAL FISH,BLOWFISH,TURTLE",
     "HATCHING CHICK,BABY CHICK,FRONT-FACING BABY CHICK,BIRD,PENGUIN,KOALA,POODLE",
     "DROMEDARY CAMEL,BACTRIAN CAMEL,DOLPHIN,MOUSE FACE,COW FACE,TIGER FACE,RABBIT FACE",
     "CAT FACE,DRAGON FACE,SPOUTING WHALE,HORSE FACE,MONKEY FACE,DOG FACE,PIG FACE,FROG FACE",
     "HAMSTER FACE,WOLF FACE,BEAR FACE,PANDA FACE,PIG NOSE,PAW PRINTS,CHIPMUNK,EYES,EYE,EAR",
     "NOSE,MOUTH,TONGUE,WHITE UP POINTING BACKHAND INDEX,WHITE DOWN POINTING BACKHAND INDEX",
     "WHITE LEFT POINTING BACKHAND INDEX,WHITE RIGHT POINTING BACKHAND INDEX,FISTED HAND SIGN",
     "WAVING HAND SIGN,OK HAND SIGN,THUMBS UP SIGN,THUMBS DOWN SIGN,CLAPPING HANDS SIGN",
     "OPEN HANDS SIGN,CROWN,WOMANS HAT,EYEGLASSES,NECKTIE,T-SHIRT,JEANS,DRESS,KIMONO,BIKINI",
     "WOMANS CLOTHES,PURSE,HANDBAG,POUCH,MANS SHOE,ATHLETIC SHOE,HIGH-HEELED SHOE",
     "WOMANS SANDAL,WOMANS BOOTS,FOOTPRINTS,BUST IN SILHOUETTE,BUSTS IN SILHOUETTE,BOY,GIRL",
     "MAN,WOMAN,FAMILY,MAN AND WOMAN HOLDING HANDS,TWO MEN HOLDING HANDS",
     "TWO WOMEN HOLDING HANDS,POLICE OFFICER,WOMAN WITH BUNNY EARS,BRIDE WITH VEIL",
     "PERSON WITH BLOND HAIR,MAN WITH GUA PI MAO,MAN WITH TURBAN,OLDER MAN,OLDER WOMAN,BABY",
     "CONSTRUCTION WORKER,PRINCESS,JAPANESE OGRE,JAPANESE GOBLIN,GHOST,BABY ANGEL",
     "EXTRATERRESTRIAL ALIEN,ALIEN MONSTER,IMP,SKULL,INFORMATION DESK PERSON,GUARDSMAN,DANCER",
     "LIPSTICK,NAIL POLISH,FACE MASSAGE,HAIRCUT,BARBER POLE,SYRINGE,PILL,KISS MARK",
     "LOVE LETTER,RING,GEM STONE,KISS,BOUQUET,COUPLE WITH HEART,WEDDING,BEATING HEART",
     "BROKEN HEART,TWO HEARTS,SPARKLING HEART,GROWING HEART,HEART WITH ARROW,BLUE HEART",
     "GREEN HEART,YELLOW HEART,PURPLE HEART,HEART WITH RIBBON,REVOLVING HEARTS",
     "HEART DECORATION,DIAMOND SHAPE WITH A DOT INSIDE,ELECTRIC LIGHT BULB,ANGER SYMBOL,BOMB",
     "SLEEPING SYMBOL,COLLISION SYMBOL,SPLASHING SWEAT SYMBOL,DROPLET,DASH SYMBOL,PILE OF POO",
     "FLEXED BICEPS,DIZZY SYMBOL,SPEECH BALLOON,THOUGHT BALLOON,WHITE FLOWER",
     "HUNDRED POINTS SYMBOL,MONEY BAG,CURRENCY EXCHANGE,HEAVY DOLLAR SIGN,CREDIT CARD",
     "BANKNOTE WITH YEN SIGN,BANKNOTE WITH DOLLAR SIGN,BANKNOTE WITH EURO SIGN",
     "BANKNOTE WITH POUND SIGN,MONEY WITH WINGS,CHART WITH UPWARDS TREND AND YEN SIGN,SEAT",
     "PERSONAL COMPUTER,BRIEFCASE,MINIDISC,FLOPPY DISK,OPTICAL DISC,DVD,FILE FOLDER",
     "OPEN FILE FOLDER,PAGE WITH CURL,PAGE FACING UP,CALENDAR,TEAR-OFF CALENDAR,CARD INDEX",
     "CHART WITH UPWARDS TREND,CHART WITH DOWNWARDS TREND,BAR CHART,CLIPBOARD,PUSHPIN",
     "ROUND PUSHPIN,PAPERCLIP,STRAIGHT RULER,TRIANGULAR RULER,BOOKMARK TABS,LEDGER,NOTEBOOK",
     "NOTEBOOK WITH DECORATIVE COVER,CLOSED BOOK,OPEN BOOK,GREEN BOOK,BLUE BOOK,ORANGE BOOK",
     "BOOKS,NAME BADGE,SCROLL,MEMO,TELEPHONE RECEIVER,PAGER,FAX MACHINE,SATELLITE ANTENNA",
     "PUBLIC ADDRESS LOUDSPEAKER,CHEERING MEGAPHONE,OUTBOX TRAY,INBOX TRAY,PACKAGE",
     "E-MAIL SYMBOL,INCOMING ENVELOPE,ENVELOPE WITH DOWNWARDS ARROW ABOVE",
     "CLOSED MAILBOX WITH LOWERED FLAG,CLOSED MAILBOX WITH RAISED FLAG",
     "OPEN MAILBOX WITH RAISED FLAG,OPEN MAILBOX WITH LOWERED FLAG,POSTBOX,POSTAL HORN",
     "NEWSPAPER,MOBILE PHONE,MOBILE PHONE WITH RIGHTWARDS ARROW AT LEFT,VIBRATION MODE",
     "MOBILE PHONE OFF,NO MOBILE PHONES,ANTENNA WITH BARS,CAMERA,CAMERA WITH FLASH",
     "VIDEO CAMERA,TELEVISION,RADIO,VIDEOCASSETTE,FILM PROJECTOR,PORTABLE STEREO,PRAYER BEADS",
     "TWISTED RIGHTWARDS ARROWS"]⟩,
  ⟨0x1f501, "CLOCKWISE RIGHTWARDS AND LEFTWARDS OPEN CIRCLE ", ["ARROWS",
     "ARROWS WITH CIRCLED ONE OVERLAY"]⟩,
  ⟨0x1f503, "", ["CLOCKWISE DOWNWARDS AND UPWARDS OPEN CIRCLE ARROWS",
     "ANTICLOCKWISE DOWNWARDS AND UPWARDS OPEN CIRCLE ARROWS,LOW BRIGHTNESS SYMBOL",
     "HIGH BRIGHTNESS SYMBOL,SPEAKER WITH CANCELLATION STROKE,SPEAKER",
     "SPEAKER WITH ONE SOUND WAVE,SPEAKER WITH THREE SOUND WAVES,BATTERY,ELECTRIC PLUG",
     "LEFT-POINTING MAGNIFYING GLASS,RIGHT-POINTING MAGNIFYING GLASS,LOCK WITH INK PEN",
     "CLOSED LOCK WITH KEY,KEY,LOCK,OPEN LOCK,BELL,BELL WITH CANCELLATION STROKE,BOOKMARK",
     "LINK SYMBOL,RADIO BUTTON,BACK WITH LEFTWARDS ARROW ABOVE,END WITH LEFTWARDS ARROW ABOVE",
     "ON WITH EXCLAMATION MARK WITH LEFT RIGHT ARROW ABOVE,SOON WITH RIGHTWARDS ARROW ABOVE",
     "TOP WITH UPWARDS ARROW ABOVE,NO ONE UNDER EIGHTEEN SYMBOL,KEYCAP TEN"]⟩,
  ⟨0x1f520, "INPUT SYMBOL FOR ", ["LATIN CAPITAL LETTERS,LATIN SMALL LETTERS,NUMBERS,SYMBOLS",
     "LATIN LETTERS"]⟩,
  ⟨0x1f525, "", ["FIRE,ELECTRIC TORCH,WRENCH,HAMMER,NUT AND BOLT,HOCHO,PISTOL,MICROSCOPE",
     "TELESCOPE,CRYSTAL BALL,SIX POINTED STAR WITH MIDDLE DOT,JAPANESE SYMBOL FOR BEGINNER",
     "TRIDENT EMBLEM,BLACK SQUARE BUTTON,WHITE SQUARE BUTTON,LARGE RED CIRCLE",
     "LARGE BLUE CIRCLE,LARGE ORANGE DIAMOND,LARGE BLUE DIAMOND,SMALL ORANGE DIAMOND",
     "SMALL BLUE DIAMOND,UP-POINTING RED TRIANGLE,DOWN-POINTING RED TRIANGLE",
     "UP-POINTING SMALL RED TRIANGLE,DOWN-POINTING SMALL RED TRIANGLE",
     "LOWER RIGHT SHADOWED WHITE CIRCLE,UPPER RIGHT SHADOWED WHITE CIRCLE",
     "CIRCLED CROSS POMMEE,CROSS POMMEE WITH HALF-CIRCLE BELOW,CROSS POMMEE",
     "NOTCHED LEFT SEMICIRCLE WITH THREE DOTS,NOTCHED RIGHT SEMICIRCLE WITH THREE DOTS",
     "SYMBOL FOR MARKS CHAPTER,WHITE LATIN CROSS,HEAVY LATIN CROSS,CELTIC CROSS,OM SYMBOL",
     "DOVE OF PEACE,KAABA,MOSQUE,SYNAGOGUE,MENORAH WITH NINE BRANCHES,BOWL OF HYGIEIA"]⟩,
  ⟨0x1f550, "CLOCK FACE ", ["ONE OCLOCK,TWO OCLOCK,THREE OCLOCK,FOUR OCLOCK,FIVE OCLOCK",
     "SIX OCLOCK,SEVEN OCLOCK,EIGHT OCLOCK,NINE OCLOCK,TEN OCLOCK,ELEVEN OCLOCK,TWELVE OCLOCK",
     "ONE-THIRTY,TWO-THIRTY,THREE-THIRTY,FOUR-THIRTY,FIVE-THIRTY,SIX-THIRTY,SEVEN-THIRTY",
     "EIGHT-THIRTY,NINE-THIRTY,TEN-THIRTY,ELEVEN-THIRTY,TWELVE-THIRTY"]⟩,
  ⟨0x1f568, "", ["RIGHT SPEAKER,RIGHT SPEAKER WITH ONE SOUND WAVE",
     "RIGHT SPEAKER WITH THREE SOUND WAVES,BULLHORN,BULLHORN WITH SOUND WAVES,RINGING BELL",
     "BOOK,CANDLE,MANTELPIECE CLOCK,BLACK SKULL AND CROSSBONES,NO PIRACY,HOLE",
     "MAN IN BUSINESS SUIT LEVITATING,SLEUTH OR SPY,DARK SUNGLASSES,SPIDER,SPIDER WEB",
     "JOYSTICK,MAN DANCING,LEFT HAND TELEPHONE RECEIVER,TELEPHONE RECEIVER WITH PAGE",
     "RIGHT HAND TELEPHONE RECEIVER,WHITE TOUCHTONE TELEPHONE,BLACK TOUCHTONE TELEPHONE",
     "TELEPHONE ON TOP OF MODEM,CLAMSHELL MOBILE PHONE,BACK OF ENVELOPE,STAMPED ENVELOPE",
     "ENVELOPE WITH LIGHTNING,FLYING ENVELOPE,PEN OVER STAMPED ENVELOPE,LINKED PAPERCLIPS",
     "BLACK PUSHPIN,LOWER LEFT PENCIL,LOWER LEFT BALLPOINT PEN,LOWER LEFT FOUNTAIN PEN",
     "LOWER LEFT PAINTBRUSH,LOWER LEFT CRAYON,LEFT WRITING HAND,TURNED OK HAND SIGN",
     "RAISED HAND WITH FINGERS SPLAYED,REVERSED RAISED HAND WITH FINGERS SPLAYED",
     "REVERSED THUMBS UP SIGN,REVERSED THUMBS DOWN SIGN,REVERSED VICTORY HAND",
     "REVERSED HAND WITH MIDDLE FINGER EXTENDED",
     "RAISED HAND WITH PART BETWEEN MIDDLE AND RING FINGERS",
     "WHITE DOWN POINTING LEFT HAND INDEX,SIDEWAYS WHITE LEFT POINTING INDEX",
     "SIDEWAYS WHITE RIGHT POINTING INDEX,SIDEWAYS BLACK LEFT POINTING INDEX",
     "SIDEWAYS BLACK RIGHT POINTING INDEX,BLACK LEFT POINTING BACKHAND INDEX",
     "BLACK RIGHT POINTING BACKHAND INDEX,SIDEWAYS WHITE UP POINTING INDEX",
     "SIDEWAYS WHITE DOWN POINTING INDEX,SIDEWAYS BLACK UP POINTING INDEX",
     "SIDEWAYS BLACK DOWN POINTING INDEX,BLACK UP POINTING BACKHAND INDEX",
     "BLACK DOWN POINTING BACKHAND INDEX,BLACK HEART,DESKTOP COMPUTER,KEYBOARD AND MOUSE",
     "THREE NETWORKED COMPUTERS,PRINTER,POCKET CALCULATOR,BLACK HARD SHELL FLOPPY DISK",
     "WHITE HARD SHELL FLOPPY DISK,SOFT SHELL FLOPPY DISK,TAPE CARTRIDGE,WIRED KEYBOARD",
     "ONE BUTTON MOUSE,TWO BUTTON MOUSE,THREE BUTTON MOUSE,TRACKBALL,OLD PERSONAL COMPUTER",
     "HARD DISK,SCREEN,PRINTER ICON,FAX ICON,OPTICAL DISC ICON,DOCUMENT WITH TEXT",
     "DOCUMENT WITH TEXT AND PICTURE,DOCUMENT WITH PICTURE,FRAME WITH PICTURE",
     "FRAME WITH TILES,FRAME WITH AN X,BLACK FOLDER,FOLDER,OPEN FOLDER,CARD INDEX DIVIDERS",
     "CARD FILE BOX,FILE CABINET,EMPTY NOTE,EMPTY NOTE PAGE,EMPTY NOTE PAD,NOTE,NOTE PAGE",
     "NOTE PAD,EMPTY DOCUMENT,EMPTY PAGE,EMPTY PAGES,DOCUMENT,PAGE,PAGES,WASTEBASKET",
     "SPIRAL NOTE PAD,SPIRAL CALENDAR PAD,DESKTOP WINDOW,MINIMIZE,MAXIMIZE,OVERLAP",
     "CLOCKWISE RIGHT AND LEFT SEMICIRCLE ARROWS,CANCELLATION X,INCREASE FONT SIZE SYMBOL",
     "DECREASE FONT SIZE SYMBOL,COMPRESSION,OLD KEY,ROLLED-UP NEWSPAPER",
     "PAGE WITH CIRCLED TEXT,STOCK CHART,DAGGER KNIFE,LIPS,SPEAKING HEAD IN SILHOUETTE",
     "THREE RAYS ABOVE,THREE RAYS BELOW,THREE RAYS LEFT,THREE RAYS RIGHT,LEFT SPEECH BUBBLE",
     "RIGHT SPEECH BUBBLE,TWO SPEECH BUBBLES,THREE SPEECH BUBBLES,LEFT THOUGHT BUBBLE",
     "RIGHT THOUGHT BUBBLE,LEFT ANGER BUBBLE,RIGHT ANGER BUBBLE,MOOD BUBBLE",
     "LIGHTNING MOOD BUBBLE,LIGHTNING MOOD,BALLOT BOX WITH BALLOT,BALLOT SCRIPT X",
     "BALLOT BOX WITH SCRIPT X,BALLOT BOLD SCRIPT X,BALLOT BOX WITH BOLD SCRIPT X",
     "LIGHT CHECK MARK,BALLOT BOX WITH BOLD CHECK,WORLD MAP,MOUNT FUJI,TOKYO TOWER",
     "STATUE OF LIBERTY,SILHOUETTE OF JAPAN,MOYAI,GRINNING FACE",
     "GRINNING FACE WITH SMILING EYES,FACE WITH TEARS OF JOY"]⟩,
  ⟨0x1f603, "SMILING FACE WITH ", ["OPEN MOUTH,OPEN MOUTH AND SMILING EYES",
     "OPEN MOUTH AND COLD SWEAT,OPEN MOUTH AND TIGHTLY-CLOSED EYES,HALO,HORNS"]⟩,
  ⟨0x1f609, "", ["WINKING FACE,SMILING FACE WITH SMILING EYES,FACE SAVOURING DELICIOUS FOOD",
     "RELIEVED FACE,SMILING FACE WITH HEART-SHAPED EYES,SMILING FACE WITH SUNGLASSES",
     "SMIRKING FACE,NEUTRAL FACE,EXPRESSIONLESS FACE,UNAMUSED FACE,FACE WITH COLD SWEAT",
     "PENSIVE FACE,CONFUSED FACE,CONFOUNDED FACE,KISSING FACE,FACE THROWING A KISS",
     "KISSING FACE WITH SMILING EYES,KISSING FACE WITH CLOSED EYES,FACE WITH STUCK-OUT TONGUE",
     "FACE WITH STUCK-OUT TONGUE AND WINKING EYE",
     "FACE WITH STUCK-OUT TONGUE AND TIGHTLY-CLOSED EYES,DISAPPOINTED FACE,WORRIED FACE",
     "ANGRY FACE,POUTING FACE,CRYING FACE,PERSEVERING FACE,FACE WITH LOOK OF TRIUMPH",
     "DISAPPOINTED BUT RELIEVED FACE,FROWNING FACE WITH OPEN MOUTH,ANGUISHED FACE",
     "FEARFUL FACE,WEARY FACE,SLEEPY FACE,TIRED FACE,GRIMACING FACE,LOUDLY CRYING FACE",
     "FACE WITH OPEN MOUTH,HUSHED FACE,FACE WITH OPEN MOUTH AND COLD SWEAT",
     "FACE SCREAMING IN FEAR,ASTONISHED FACE,FLUSHED FACE,SLEEPING FACE,DIZZY FACE",
     "FACE WITHOUT MOUTH,FACE WITH MEDICAL MASK,GRINNING CAT FACE WITH SMILING EYES",
     "CAT FACE WITH TEARS OF JOY,SMILING CAT FACE WITH OPEN MOUTH",
     "SMILING CAT FACE WITH HEART-SHAPED EYES,CAT FACE WITH WRY SMILE",
     "KISSING CAT FACE WITH CLOSED EYES,POUTING CAT FACE,CRYING CAT FACE,WEARY CAT FACE",
     "SLIGHTLY FROWNING FACE,SLIGHTLY SMILING FACE,UPSIDE-DOWN FACE,FACE WITH ROLLING EYES",
     "FACE WITH NO GOOD GESTURE,FACE WITH OK GESTURE,PERSON BOWING DEEPLY,SEE-NO-EVIL MONKEY",
     "HEAR-NO-EVIL MONKEY,SPEAK-NO-EVIL MONKEY,HAPPY PERSON RAISING ONE HAND",
     "PERSON RAISING BOTH HANDS IN CELEBRATION,PERSON FROWNING,PERSON WITH POUTING FACE",
     "PERSON WITH FOLDED HANDS,NORTH WEST POINTING LEAF,SOUTH WEST POINTING LEAF",
     "NORTH EAST POINTING LEAF,SOUTH EAST POINTING LEAF,TURNED NORTH WEST POINTING LEAF",
     "TURNED SOUTH WEST POINTING LEAF,TURNED NORTH EAST POINTING LEAF",
     "TURNED SOUTH EAST POINTING LEAF,NORTH WEST POINTING VINE LEAF",
     "SOUTH WEST POINTING VINE LEAF,NORTH EAST POINTING VINE LEAF",
     "SOUTH EAST POINTING VINE LEAF,HEAVY NORTH WEST POINTING VINE LEAF",
     "HEAVY SOUTH WEST POINTING VINE LEAF,HEAVY NORTH EAST POINTING VINE LEAF",
     "HEAVY SOUTH EAST POINTING VINE LEAF,NORTH WEST POINTING BUD,SOUTH WEST POINTING BUD",
     "NORTH EAST POINTING BUD,SOUTH EAST POINTING BUD,HEAVY NORTH WEST POINTING BUD",
     "HEAVY SOUTH WEST POINTING BUD,HEAVY NORTH EAST POINTING BUD",
     "HEAVY SOUTH EAST POINTING BUD,HOLLOW QUILT SQUARE ORNAMENT",
     "HOLLOW QUILT SQUARE ORNAMENT IN BLACK SQUARE,SOLID QUILT SQUARE ORNAMENT",
     "SOLID QUILT SQUARE ORNAMENT IN BLACK SQUARE,LEFTWARDS ROCKET,UPWARDS ROCKET",
     "RIGHTWARDS ROCKET,DOWNWARDS ROCKET,SCRIPT LIGATURE ET ORNAMENT",
     "HEAVY SCRIPT LIGATURE ET ORNAMENT,LIGATURE OPEN ET ORNAMENT",
     "HEAVY LIGATURE OPEN ET ORNAMENT,HEAVY AMPERSAND ORNAMENT,SWASH AMPERSAND ORNAMENT",
     "SANS-SERIF HEAVY DOUBLE TURNED COMMA QUOTATION MARK ORNAMENT",
     "SANS-SERIF HEAVY DOUBLE COMMA QUOTATION MARK ORNAMENT",
     "SANS-SERIF HEAVY LOW DOUBLE COMMA QUOTATION MARK ORNAMENT,HEAVY INTERROBANG ORNAMENT",
     "SANS-SERIF INTERROBANG ORNAMENT,HEAVY SANS-SERIF INTERROBANG ORNAMENT",
     "VERY HEAVY SOLIDUS,VERY HEAVY REVERSE SOLIDUS,CHECKER BOARD,REVERSE CHECKER BOARD",
     "ROCKET,HELICOPTER,STEAM LOCOMOTIVE,RAILWAY CAR,HIGH-SPEED TRAIN",
     "HIGH-SPEED TRAIN WITH BULLET NOSE,TRAIN,METRO,LIGHT RAIL,STATION,TRAM,TRAM CAR,BUS",
     "ONCOMING BUS,TROLLEYBUS,BUS STOP,MINIBUS,AMBULANCE,FIRE ENGINE,POLICE CAR",
     "ONCOMING POLICE CAR,TAXI,ONCOMING TAXI,AUTOMOBILE,ONCOMING AUTOMOBILE",
     "RECREATIONAL VEHICLE,DELIVERY TRUCK,ARTICULATED LORRY,TRACTOR,MONORAIL,MOUNTAIN RAILWAY",
     "SUSPENSION RAILWAY,MOUNTAIN CABLEWAY,AERIAL TRAMWAY,SHIP,ROWBOAT,SPEEDBOAT",
     "HORIZONTAL TRAFFIC LIGHT,VERTICAL TRAFFIC LIGHT,CONSTRUCTION SIGN",
     "POLICE CARS REVOLVING LIGHT,TRIANGULAR FLAG ON POST,DOOR,NO ENTRY SIGN,SMOKING SYMBOL",
     "NO SMOKING SYMBOL,PUT LITTER IN ITS PLACE SYMBOL,DO NOT LITTER SYMBOL",
     "POTABLE WATER SYMBOL,NON-POTABLE WATER SYMBOL,BICYCLE,NO BICYCLES,BICYCLIST",
     "MOUNTAIN BICYCLIST,PEDESTRIAN,NO PEDESTRIANS,CHILDREN CROSSING,MENS SYMBOL",
     "WOMENS SYMBOL,RESTROOM,BABY SYMBOL,TOILET,WATER CLOSET,SHOWER,BATH,BATHTUB",
     "PASSPORT CONTROL,CUSTOMS,BAGGAGE CLAIM,LEFT LUGGAGE,TRIANGLE WITH ROUNDED CORNERS",
     "PROHIBITED SIGN,CIRCLED INFORMATION SOURCE,BOYS SYMBOL,GIRLS SYMBOL,COUCH AND LAMP",
     "SLEEPING ACCOMMODATION,SHOPPING BAGS,BELLHOP BELL,BED,PLACE OF WORSHIP,OCTAGONAL SIGN",
     "SHOPPING TROLLEY,STUPA,PAGODA,HINDU TEMPLE,HUT,ELEVATOR"]⟩,
  ⟨0x1f6dd, "", ["PLAYGROUND SLIDE,WHEEL,RING BUOY,HAMMER AND WRENCH,SHIELD,OIL DRUM",
     "MOTORWAY,RAILWAY TRACK,MOTOR BOAT,UP-POINTING MILITARY AIRPLANE,UP-POINTING AIRPLANE",
     "UP-POINTING SMALL AIRPLANE,SMALL AIRPLANE,NORTHEAST-POINTING AIRPLANE",
     "AIRPLANE DEPARTURE,AIRPLANE ARRIVING"]⟩,
  ⟨0x1f6f0, "", ["SATELLITE,ONCOMING FIRE ENGINE,DIESEL LOCOMOTIVE,PASSENGER SHIP,SCOOTER",
     "MOTOR SCOOTER,CANOE,SLED,FLYING SAUCER,SKATEBOARD,AUTO RICKSHAW,PICKUP TRUCK",
     "ROLLER SKATE"]⟩,
  ⟨0x1f700, "ALCHEMICAL SYMBOL FOR ", ["QUINTESSENCE,AIR,FIRE,EARTH,WATER,AQUAFORTIS",
     "AQUA REGIA,AQUA REGIA-2,AQUA VITAE,AQUA VITAE-2,VINEGAR,VINEGAR-2,VINEGAR-3,SULFUR",
     "PHILOSOPHERS SULFUR,BLACK SULFUR,MERCURY SUBLIMATE,MERCURY SUBLIMATE-2",
     "MERCURY SUBLIMATE-3,CINNABAR,SALT,NITRE,VITRIOL,VITRIOL-2,ROCK SALT,ROCK SALT-2,GOLD",
     "SILVER,IRON ORE,IRON ORE-2,CROCUS OF IRON,REGULUS OF IRON,COPPER ORE,IRON-COPPER ORE",
     "SUBLIMATE OF COPPER,CROCUS OF COPPER,CROCUS OF COPPER-2,COPPER ANTIMONIATE",
     "SALT OF COPPER ANTIMONIATE,SUBLIMATE OF SALT OF COPPER,VERDIGRIS,TIN ORE,LEAD ORE",
     "ANTIMONY ORE,SUBLIMATE OF ANTIMONY,SALT OF ANTIMONY,SUBLIMATE OF SALT OF ANTIMONY",
     "VINEGAR OF ANTIMONY,REGULUS OF ANTIMONY,REGULUS OF ANTIMONY-2,REGULUS,REGULUS-2",
     "REGULUS-3,REGULUS-4,ALKALI,ALKALI-2,MARCASITE,SAL-AMMONIAC,ARSENIC,REALGAR,REALGAR-2",
     "AURIPIGMENT,BISMUTH ORE,TARTAR,TARTAR-2,QUICK LIME,BORAX,BORAX-2,BORAX-3,ALUM,OIL",
     "SPIRIT,TINCTURE,GUM,WAX,POWDER,CALX,TUTTY,CAPUT MORTUUM,SCEPTER OF JOVE,CADUCEUS",
     "TRIDENT,STARRED TRIDENT,LODESTONE,SOAP,URINE,HORSE DUNG,ASHES,POT ASHES,BRICK",
     "POWDERED BRICK,AMALGAM,STRATUM SUPER STRATUM,STRATUM SUPER STRATUM-2,SUBLIMATION",
     "PRECIPITATE,DISTILL,DISSOLVE,DISSOLVE-2,PURIFY,PUTREFACTION,CRUCIBLE,CRUCIBLE-2",
     "CRUCIBLE-3,CRUCIBLE-4,CRUCIBLE-5,ALEMBIC,BATH OF MARY,BATH OF VAPOURS,RETORT,HOUR,NIGHT",
     "DAY-NIGHT,MONTH,HALF DRAM,HALF OUNCE"]⟩,
  ⟨0x1f780, "BLACK ", ["LEFT-POINTING ISOSCELES RIGHT TRIANGLE",
     "UP-POINTING ISOSCELES RIGHT TRIANGLE,RIGHT-POINTING ISOSCELES RIGHT TRIANGLE",
     "DOWN-POINTING ISOSCELES RIGHT TRIANGLE,SLIGHTLY SMALL CIRCLE"]⟩,
  ⟨0x1f785, "", ["MEDIUM BOLD WHITE CIRCLE,BOLD WHITE CIRCLE,HEAVY WHITE CIRCLE",
     "VERY HEAVY WHITE CIRCLE,EXTREMELY HEAVY WHITE CIRCLE",
     "WHITE CIRCLE CONTAINING BLACK SMALL CIRCLE,ROUND TARGET,BLACK TINY SQUARE",
     "BLACK SLIGHTLY SMALL SQUARE,LIGHT WHITE SQUARE,MEDIUM WHITE SQUARE,BOLD WHITE SQUARE",
     "HEAVY WHITE SQUARE,VERY HEAVY WHITE SQUARE,EXTREMELY HEAVY WHITE SQUARE",
     "WHITE SQUARE CONTAINING BLACK VERY SMALL SQUARE",
     "WHITE SQUARE CONTAINING BLACK MEDIUM SQUARE,SQUARE TARGET,BLACK TINY DIAMOND",
     "BLACK VERY SMALL DIAMOND,BLACK MEDIUM SMALL DIAMOND",
     "WHITE DIAMOND CONTAINING BLACK VERY SMALL DIAMOND",
     "WHITE DIAMOND CONTAINING BLACK MEDIUM DIAMOND,DIAMOND TARGET,BLACK TINY LOZENGE",
     "BLACK VERY SMALL LOZENGE,BLACK MEDIUM SMALL LOZENGE",
     "WHITE LOZENGE CONTAINING BLACK SMALL LOZENGE,THIN GREEK CROSS,LIGHT GREEK CROSS",
     "MEDIUM GREEK CROSS,BOLD GREEK CROSS,VERY BOLD GREEK CROSS,VERY HEAVY GREEK CROSS",
     "EXTREMELY HEAVY GREEK CROSS,THIN SALTIRE,LIGHT SALTIRE,MEDIUM SALTIRE,BOLD SALTIRE",
     "HEAVY SALTIRE,VERY HEAVY SALTIRE,EXTREMELY HEAVY SALTIRE,LIGHT FIVE SPOKED ASTERISK",
     "MEDIUM FIVE SPOKED ASTERISK,BOLD FIVE SPOKED ASTERISK,HEAVY FIVE SPOKED ASTERISK",
     "VERY HEAVY FIVE SPOKED ASTERISK,EXTREMELY HEAVY FIVE SPOKED ASTERISK",
     "LIGHT SIX SPOKED ASTERISK,MEDIUM SIX SPOKED ASTERISK,BOLD SIX SPOKED ASTERISK",
     "HEAVY SIX SPOKED ASTERISK,VERY HEAVY SIX SPOKED ASTERISK",
     "EXTREMELY HEAVY SIX SPOKED ASTERISK,LIGHT EIGHT SPOKED ASTERISK",
     "MEDIUM EIGHT SPOKED ASTERISK,BOLD EIGHT SPOKED ASTERISK,HEAVY EIGHT SPOKED ASTERISK",
     "VERY HEAVY EIGHT SPOKED ASTERISK,LIGHT THREE POINTED BLACK STAR",
     "MEDIUM THREE POINTED BLACK STAR,THREE POINTED BLACK STAR",
     "MEDIUM THREE POINTED PINWHEEL STAR,LIGHT FOUR POINTED BLACK STAR",
     "MEDIUM FOUR POINTED BLACK STAR,FOUR POINTED BLACK STAR",
     "MEDIUM FOUR POINTED PINWHEEL STAR,REVERSE LIGHT FOUR POINTED PINWHEEL STAR",
     "LIGHT FIVE POINTED BLACK STAR,HEAVY FIVE POINTED BLACK STAR",
     "MEDIUM SIX POINTED BLACK STAR,HEAVY SIX POINTED BLACK STAR,SIX POINTED PINWHEEL STAR",
     "MEDIUM EIGHT POINTED BLACK STAR,HEAVY EIGHT POINTED BLACK STAR",
     "VERY HEAVY EIGHT POINTED BLACK STAR,HEAVY EIGHT POINTED PINWHEEL STAR",
     "LIGHT TWELVE POINTED BLACK STAR,HEAVY TWELVE POINTED BLACK STAR",
     "HEAVY TWELVE POINTED PINWHEEL STAR,CIRCLED TRIANGLE,NEGATIVE CIRCLED TRIANGLE",
     "CIRCLED SQUARE,NEGATIVE CIRCLED SQUARE"]⟩,
  ⟨0x1f7e0, "LARGE ", ["ORANGE CIRCLE,YELLOW CIRCLE,GREEN CIRCLE,PURPLE CIRCLE,BROWN CIRCLE",
     "RED SQUARE,BLUE SQUARE,ORANGE SQUARE,YELLOW SQUARE,GREEN SQUARE,PURPLE SQUARE",
     "BROWN SQUARE"]⟩,
  ⟨0x1f7f0, "", ["HEAVY EQUALS SIGN"]⟩,
  ⟨0x1f800, "", ["LEFTWARDS ARROW WITH SMALL TRIANGLE ARROWHEAD",
     "UPWARDS ARROW WITH SMALL TRIANGLE ARROWHEAD",
     "RIGHTWARDS ARROW WITH SMALL TRIANGLE ARROWHEAD",
     "DOWNWARDS ARROW WITH SMALL TRIANGLE ARROWHEAD",
     "LEFTWARDS ARROW WITH MEDIUM TRIANGLE ARROWHEAD",
     "UPWARDS ARROW WITH MEDIUM TRIANGLE ARROWHEAD",
     "RIGHTWARDS ARROW WITH MEDIUM TRIANGLE ARROWHEAD",
     "DOWNWARDS ARROW WITH MEDIUM TRIANGLE ARROWHEAD",
     "LEFTWARDS ARROW WITH LARGE TRIANGLE ARROWHEAD",
     "UPWARDS ARROW WITH LARGE TRIANGLE ARROWHEAD",
     "RIGHTWARDS ARROW WITH LARGE TRIANGLE ARROWHEAD",
     "DOWNWARDS ARROW WITH LARGE TRIANGLE ARROWHEAD"]⟩,
  ⟨0x1f810, "", ["LEFTWARDS ARROW WITH SMALL EQUILATERAL ARROWHEAD",
     "UPWARDS ARROW WITH SMALL EQUILATERAL ARROWHEAD",
     "RIGHTWARDS ARROW WITH SMALL EQUILATERAL ARROWHEAD",
     "DOWNWARDS ARROW WITH SMALL EQUILATERAL ARROWHEAD",
     "LEFTWARDS ARROW WITH EQUILATERAL ARROWHEAD,UPWARDS ARROW WITH EQUILATERAL ARROWHEAD",
     "RIGHTWARDS ARROW WITH EQUILATERAL ARROWHEAD,DOWNWARDS ARROW WITH EQUILATERAL ARROWHEAD",
     "HEAVY LEFTWARDS ARROW WITH EQUILATERAL ARROWHEAD",
     "HEAVY UPWARDS ARROW WITH EQUILATERAL ARROWHEAD",
     "HEAVY RIGHTWARDS ARROW WITH EQUILATERAL ARROWHEAD",
     "HEAVY DOWNWARDS ARROW WITH EQUILATERAL ARROWHEAD",
     "HEAVY LEFTWARDS ARROW WITH LARGE EQUILATERAL ARROWHEAD",
     "HEAVY UPWARDS ARROW WITH LARGE EQUILATERAL ARROWHEAD",
     "HEAVY RIGHTWARDS ARROW WITH LARGE EQUILATERAL ARROWHEAD",
     "HEAVY DOWNWARDS ARROW WITH LARGE EQUILATERAL ARROWHEAD",
     "LEFTWARDS TRIANGLE-HEADED ARROW WITH NARROW SHAFT",
     "UPWARDS TRIANGLE-HEADED ARROW WITH NARROW SHAFT",
     "RIGHTWARDS TRIANGLE-HEADED ARROW WITH NARROW SHAFT",
     "DOWNWARDS TRIANGLE-HEADED ARROW WITH NARROW SHAFT",
     "LEFTWARDS TRIANGLE-HEADED ARROW WITH MEDIUM SHAFT",
     "UPWARDS TRIANGLE-HEADED ARROW WITH MEDIUM SHAFT",
     "RIGHTWARDS TRIANGLE-HEADED ARROW WITH MEDIUM SHAFT",
     "DOWNWARDS TRIANGLE-HEADED ARROW WITH MEDIUM SHAFT",
     "LEFTWARDS TRIANGLE-HEADED ARROW WITH BOLD SHAFT",
     "UPWARDS TRIANGLE-HEADED ARROW WITH BOLD SHAFT",
     "RIGHTWARDS TRIANGLE-HEADED ARROW WITH BOLD SHAFT",
     "DOWNWARDS TRIANGLE-HEADED ARROW WITH BOLD SHAFT",
     "LEFTWARDS TRIANGLE-HEADED ARROW WITH HEAVY SHAFT",
     "UPWARDS TRIANGLE-HEADED ARROW WITH HEAVY SHAFT",
     "RIGHTWARDS TRIANGLE-HEADED ARROW WITH HEAVY SHAFT",
     "DOWNWARDS TRIANGLE-HEADED ARROW WITH HEAVY SHAFT",
     "LEFTWARDS TRIANGLE-HEADED ARROW WITH VERY HEAVY SHAFT",
     "UPWARDS TRIANGLE-HEADED ARROW WITH VERY HEAVY SHAFT",
     "RIGHTWARDS TRIANGLE-HEADED ARROW WITH VERY HEAVY SHAFT",
     "DOWNWARDS TRIANGLE-HEADED ARROW WITH VERY HEAVY SHAFT,LEFTWARDS FINGER-POST ARROW",
     "UPWARDS FINGER-POST ARROW,RIGHTWARDS FINGER-POST ARROW,DOWNWARDS FINGER-POST ARROW",
     "LEFTWARDS SQUARED ARROW,UPWARDS SQUARED ARROW,RIGHTWARDS SQUARED ARROW",
     "DOWNWARDS SQUARED ARROW,LEFTWARDS COMPRESSED ARROW,UPWARDS COMPRESSED ARROW",
     "RIGHTWARDS COMPRESSED ARROW,DOWNWARDS COMPRESSED ARROW,LEFTWARDS HEAVY COMPRESSED ARROW",
     "UPWARDS HEAVY COMPRESSED ARROW,RIGHTWARDS HEAVY COMPRESSED ARROW",
     "DOWNWARDS HEAVY COMPRESSED ARROW,LEFTWARDS HEAVY ARROW,UPWARDS HEAVY ARROW",
     "RIGHTWARDS HEAVY ARROW,DOWNWARDS HEAVY ARROW"]⟩,
  ⟨0x1f850, "", ["LEFTWARDS SANS-SERIF ARROW,UPWARDS SANS-SERIF ARROW",
     "RIGHTWARDS SANS-SERIF ARROW,DOWNWARDS SANS-SERIF ARROW,NORTH WEST SANS-SERIF ARROW",
     "NORTH EAST SANS-SERIF ARROW,SOUTH EAST SANS-SERIF ARROW,SOUTH WEST SANS-SERIF ARROW",
     "LEFT RIGHT SANS-SERIF ARROW,UP DOWN SANS-SERIF ARROW"]⟩,
  ⟨0x1f860, "WIDE-HEADED ", ["LEFTWARDS LIGHT BARB ARROW,UPWARDS LIGHT BARB ARROW",
     "RIGHTWARDS LIGHT BARB ARROW,DOWNWARDS LIGHT BARB ARROW,NORTH WEST LIGHT BARB ARROW",
     "NORTH EAST LIGHT BARB ARROW,SOUTH EAST LIGHT BARB ARROW,SOUTH WEST LIGHT BARB ARROW",
     "LEFTWARDS BARB ARROW,UPWARDS BARB ARROW,RIGHTWARDS BARB ARROW,DOWNWARDS BARB ARROW",
     "NORTH WEST BARB ARROW,NORTH EAST BARB ARROW,SOUTH EAST BARB ARROW,SOUTH WEST BARB ARROW",
     "LEFTWARDS MEDIUM BARB ARROW,UPWARDS MEDIUM BARB ARROW,RIGHTWARDS MEDIUM BARB ARROW",
     "DOWNWARDS MEDIUM BARB ARROW,NORTH WEST MEDIUM BARB ARROW,NORTH EAST MEDIUM BARB ARROW",
     "SOUTH EAST MEDIUM BARB ARROW,SOUTH WEST MEDIUM BARB ARROW,LEFTWARDS HEAVY BARB ARROW",
     "UPWARDS HEAVY BARB ARROW,RIGHTWARDS HEAVY BARB ARROW,DOWNWARDS HEAVY BARB ARROW",
     "NORTH WEST HEAVY BARB ARROW,NORTH EAST HEAVY BARB ARROW,SOUTH EAST HEAVY BARB ARROW",
     "SOUTH WEST HEAVY BARB ARROW,LEFTWARDS VERY HEAVY BARB ARROW",
     "UPWARDS VERY HEAVY BARB ARROW,RIGHTWARDS VERY HEAVY BARB ARROW",
     "DOWNWARDS VERY HEAVY BARB ARROW,NORTH WEST VERY HEAVY BARB ARROW",
     "NORTH EAST VERY HEAVY BARB ARROW,SOUTH EAST VERY HEAVY BARB ARROW",
     "SOUTH WEST VERY HEAVY BARB ARROW"]⟩,
  ⟨0x1f890, "", ["LEFTWARDS TRIANGLE ARROWHEAD,UPWARDS TRIANGLE ARROWHEAD",
     "RIGHTWARDS TRIANGLE ARROWHEAD,DOWNWARDS TRIANGLE ARROWHEAD",
     "LEFTWARDS WHITE ARROW WITHIN TRIANGLE ARROWHEAD",
     "UPWARDS WHITE ARROW WITHIN TRIANGLE ARROWHEAD",
     "RIGHTWARDS WHITE ARROW WITHIN TRIANGLE ARROWHEAD",
     "DOWNWARDS WHITE ARROW WITHIN TRIANGLE ARROWHEAD,LEFTWARDS ARROW WITH NOTCHED TAIL",
     "UPWARDS ARROW WITH NOTCHED TAIL,RIGHTWARDS ARROW WITH NOTCHED TAIL",
     "DOWNWARDS ARROW WITH NOTCHED TAIL"]⟩,
  ⟨0x1f89c, "HEAVY ARROW SHAFT WIDTH ", ["ONE,TWO THIRDS,ONE HALF,ONE THIRD"]⟩,
  ⟨0x1f8a0, "", ["LEFTWARDS BOTTOM-SHADED WHITE ARROW,RIGHTWARDS BOTTOM SHADED WHITE ARROW",
     "LEFTWARDS TOP SHADED WHITE ARROW,RIGHTWARDS TOP SHADED WHITE ARROW",
     "LEFTWARDS LEFT-SHADED WHITE ARROW,RIGHTWARDS RIGHT-SHADED WHITE ARROW",
     "LEFTWARDS RIGHT-SHADED WHITE ARROW,RIGHTWARDS LEFT-SHADED WHITE ARROW",
     "LEFTWARDS BACK-TILTED SHADOWED WHITE ARROW,RIGHTWARDS BACK-TILTED SHADOWED WHITE ARROW",
     "LEFTWARDS FRONT-TILTED SHADOWED WHITE ARROW",
     "RIGHTWARDS FRONT-TILTED SHADOWED WHITE ARROW"]⟩,
  ⟨0x1f8ac, "WHITE ARROW SHAFT WIDTH ", ["ONE,TWO THIRDS"]⟩,
  ⟨0x1f8b0, "ARROW POINTING ", ["UPWARDS THEN NORTH WEST,RIGHTWARDS THEN CURVING SOUTH WEST"]⟩,
  ⟨0x1f900, "CIRCLED CROSS ", ["FORMEE WITH FOUR DOTS,FORMEE WITH TWO DOTS,FORMEE"]⟩,
  ⟨0x1f903, "LEFT HALF CIRCLE WITH ", ["FOUR DOTS,THREE DOTS,TWO DOTS,DOT"]⟩,
  ⟨0x1f907, "", ["LEFT HALF CIRCLE"]⟩,
  ⟨0x1f908, "DOWNWARD FACING ", ["HOOK,NOTCHED HOOK,HOOK WITH DOT,NOTCHED HOOK WITH DOT"]⟩,
  ⟨0x1f90c, "", ["PINCHED FINGERS,WHITE HEART,BROWN HEART,PINCHING HAND,ZIPPER-MOUTH FACE",
     "MONEY-MOUTH FACE,FACE WITH THERMOMETER,NERD FACE,THINKING FACE,FACE WITH HEAD-BANDAGE",
     "ROBOT FACE,HUGGING FACE,SIGN OF THE HORNS,CALL ME HAND,RAISED BACK OF HAND",
     "LEFT-FACING FIST,RIGHT-FACING FIST,HANDSHAKE,HAND WITH INDEX AND MIDDLE FINGERS CROSSED",
     "I LOVE YOU HAND SIGN,FACE WITH COWBOY HAT,CLOWN FACE,NAUSEATED FACE",
     "ROLLING ON THE FLOOR LAUGHING,DROOLING FACE,LYING FACE,FACE PALM,SNEEZING FACE",
     "FACE WITH ONE EYEBROW RAISED,GRINNING FACE WITH STAR EYES",
     "GRINNING FACE WITH ONE LARGE AND ONE SMALL EYE,FACE WITH FINGER COVERING CLOSED LIPS",
     "SERIOUS FACE WITH SYMBOLS COVERING MOUTH",
     "SMILING FACE WITH SMILING EYES AND HAND COVERING MOUTH,FACE WITH OPEN MOUTH VOMITING",
     "SHOCKED FACE WITH EXPLODING HEAD,PREGNANT WOMAN,BREAST-FEEDING,PALMS UP TOGETHER,SELFIE",
     "PRINCE,MAN IN TUXEDO,MOTHER CHRISTMAS,SHRUG,PERSON DOING CARTWHEEL,JUGGLING,FENCER",
     "MODERN PENTATHLON,WRESTLERS,WATER POLO,HANDBALL,DIVING MASK,WILTED FLOWER",
     "DRUM WITH DRUMSTICKS,CLINKING GLASSES,TUMBLER GLASS,SPOON,GOAL NET,RIFLE",
     "FIRST PLACE MEDAL,SECOND PLACE MEDAL,THIRD PLACE MEDAL,BOXING GLOVE",
     "MARTIAL ARTS UNIFORM,CURLING STONE,LACROSSE STICK AND BALL,SOFTBALL,FLYING DISC",
     "CROISSANT,AVOCADO,CUCUMBER,BACON,POTATO,CARROT,BAGUETTE BREAD,GREEN SALAD",
     "SHALLOW PAN OF FOOD,STUFFED FLATBREAD,EGG,GLASS OF MILK,PEANUTS,KIWIFRUIT,PANCAKES",
     "DUMPLING,FORTUNE COOKIE,TAKEOUT BOX,CHOPSTICKS,BOWL WITH SPOON,CUP WITH STRAW,COCONUT",
     "BROCCOLI,PIE,PRETZEL,CUT OF MEAT,SANDWICH,CANNED FOOD,LEAFY GREEN,MANGO,MOON CAKE,BAGEL",
     "SMILING FACE WITH SMILING EYES AND THREE HEARTS,YAWNING FACE,SMILING FACE WITH TEAR",
     "FACE WITH PARTY HORN AND PARTY HAT,FACE WITH UNEVEN EYES AND WAVY MOUTH,OVERHEATED FACE",
     "FREEZING FACE,NINJA,DISGUISED FACE,FACE HOLDING BACK TEARS,FACE WITH PLEADING EYES,SARI",
     "LAB COAT,GOGGLES,HIKING BOOT,FLAT SHOE,CRAB,LION FACE,SCORPION,TURKEY,UNICORN FACE",
     "EAGLE,DUCK,BAT,SHARK,OWL,FOX FACE,BUTTERFLY,DEER,GORILLA,LIZARD,RHINOCEROS,SHRIMP,SQUID",
     "GIRAFFE FACE,ZEBRA FACE,HEDGEHOG,SAUROPOD,T-REX,CRICKET,KANGAROO,LLAMA,PEACOCK",
     "HIPPOPOTAMUS,PARROT,RACCOON,LOBSTER,MOSQUITO,MICROBE,BADGER,SWAN,MAMMOTH,DODO,SLOTH",
     "OTTER,ORANGUTAN,SKUNK,FLAMINGO,OYSTER,BEAVER,BISON,SEAL,GUIDE DOG,PROBING CANE"]⟩,
  ⟨0x1f9b0, "EMOJI COMPONENT ", ["RED HAIR,CURLY HAIR,BALD,WHITE HAIR"]⟩,
  ⟨0x1f9b4, "", ["BONE,LEG,FOOT,TOOTH,SUPERHERO,SUPERVILLAIN,SAFETY VEST",
     "EAR WITH HEARING AID,MOTORIZED WHEELCHAIR,MANUAL WHEELCHAIR,MECHANICAL ARM",
     "MECHANICAL LEG,CHEESE WEDGE,CUPCAKE,SALT SHAKER,BEVERAGE BOX,GARLIC,ONION,FALAFEL",
     "WAFFLE,BUTTER,MATE DRINK,ICE CUBE,BUBBLE TEA,TROLL,STANDING PERSON,KNEELING PERSON",
     "DEAF PERSON,FACE WITH MONOCLE,ADULT,CHILD,OLDER ADULT,BEARDED PERSON",
     "PERSON WITH HEADSCARF,PERSON IN STEAMY ROOM,PERSON CLIMBING,PERSON IN LOTUS POSITION",
     "MAGE,FAIRY,VAMPIRE,MERPERSON,ELF,GENIE,ZOMBIE,BRAIN,ORANGE HEART,BILLED CAP,SCARF",
     "GLOVES,COAT,SOCKS,RED GIFT ENVELOPE,FIRECRACKER,JIGSAW PUZZLE PIECE,TEST TUBE",
     "PETRI DISH,DNA DOUBLE HELIX,COMPASS,ABACUS,FIRE EXTINGUISHER,TOOLBOX,BRICK,MAGNET",
     "LUGGAGE,LOTION BOTTLE,SPOOL OF THREAD,BALL OF YARN,SAFETY PIN,TEDDY BEAR,BROOM,BASKET",
     "ROLL OF PAPER,BAR OF SOAP,SPONGE,RECEIPT,NAZAR AMULET"]⟩,
  ⟨0x1fa00, "NEUTRAL CHESS ", ["KING,QUEEN,ROOK,BISHOP,KNIGHT,PAWN"]⟩,
  ⟨0x1fa06, "", ["WHITE CHESS KNIGHT ROTATED FORTY-FIVE DEGREES",
     "BLACK CHESS KNIGHT ROTATED FORTY-FIVE DEGREES",
     "NEUTRAL CHESS KNIGHT ROTATED FORTY-FIVE DEGREES"]⟩,
  ⟨0x1fa09, "WHITE CHESS ", ["KING ROTATED NINETY DEGREES,QUEEN ROTATED NINETY DEGREES",
     "ROOK ROTATED NINETY DEGREES,BISHOP ROTATED NINETY DEGREES,KNIGHT ROTATED NINETY DEGREES",
     "PAWN ROTATED NINETY DEGREES"]⟩,
  ⟨0x1fa0f, "BLACK CHESS ", ["KING ROTATED NINETY DEGREES,QUEEN ROTATED NINETY DEGREES",
     "ROOK ROTATED NINETY DEGREES,BISHOP ROTATED NINETY DEGREES,KNIGHT ROTATED NINETY DEGREES",
     "PAWN ROTATED NINETY DEGREES"]⟩,
  ⟨0x1fa15, "NEUTRAL CHESS ", ["KING ROTATED NINETY DEGREES,QUEEN ROTATED NINETY DEGREES",
     "ROOK ROTATED NINETY DEGREES,BISHOP ROTATED NINETY DEGREES,KNIGHT ROTATED NINETY DEGREES",
     "PAWN ROTATED NINETY DEGREES"]⟩,
  ⟨0x1fa1b, "", ["WHITE CHESS KNIGHT ROTATED ONE HUNDRED THIRTY-FIVE DEGREES",
     "BLACK CHESS KNIGHT ROTATED ONE HUNDRED THIRTY-FIVE DEGREES",
     "NEUTRAL CHESS KNIGHT ROTATED ONE HUNDRED THIRTY-FIVE DEGREES"]⟩,
  ⟨0x1fa1e, "WHITE CHESS TURNED ", ["KING,QUEEN,ROOK,BISHOP,KNIGHT,PAWN"]⟩,
  ⟨0x1fa24, "BLACK CHESS TURNED ", ["KING,QUEEN,ROOK,BISHOP,KNIGHT,PAWN"]⟩,
  ⟨0x1fa2a, "NEUTRAL CHESS TURNED ", ["KING,QUEEN,ROOK,BISHOP,KNIGHT,PAWN"]⟩,
  ⟨0x1fa30, "", ["WHITE CHESS KNIGHT ROTATED TWO HUNDRED TWENTY-FIVE DEGREES",
     "BLACK CHESS KNIGHT ROTATED TWO HUNDRED TWENTY-FIVE DEGREES",
     "NEUTRAL CHESS KNIGHT ROTATED TWO HUNDRED TWENTY-FIVE DEGREES"]⟩,
  ⟨0x1fa33, "WHITE CHESS ", ["KING ROTATED TWO HUNDRED SEVENTY DEGREES",
     "QUEEN ROTATED TWO HUNDRED SEVENTY DEGREES,ROOK ROTATED TWO HUNDRED SEVENTY DEGREES",
     "BISHOP ROTATED TWO HUNDRED SEVENTY DEGREES,KNIGHT ROTATED TWO HUNDRED SEVENTY DEGREES",
     "PAWN ROTATED TWO HUNDRED SEVENTY DEGREES"]⟩,
  ⟨0x1fa39, "BLACK CHESS ", ["KING ROTATED TWO HUNDRED SEVENTY DEGREES",
     "QUEEN ROTATED TWO HUNDRED SEVENTY DEGREES,ROOK ROTATED TWO HUNDRED SEVENTY DEGREES",
     "BISHOP ROTATED TWO HUNDRED SEVENTY DEGREES,KNIGHT ROTATED TWO HUNDRED SEVENTY DEGREES",
     "PAWN ROTATED TWO HUNDRED SEVENTY DEGREES"]⟩,
  ⟨0x1fa3f, "NEUTRAL CHESS ", ["KING ROTATED TWO HUNDRED SEVENTY DEGREES",
     "QUEEN ROTATED TWO HUNDRED SEVENTY DEGREES,ROOK ROTATED TWO HUNDRED SEVENTY DEGREES",
     "BISHOP ROTATED TWO HUNDRED SEVENTY DEGREES,KNIGHT ROTATED TWO HUNDRED SEVENTY DEGREES",
     "PAWN ROTATED TWO HUNDRED SEVENTY DEGREES"]⟩,
  ⟨0x1fa45, "", ["WHITE CHESS KNIGHT ROTATED THREE HUNDRED FIFTEEN DEGREES",
     "BLACK CHESS KNIGHT ROTATED THREE HUNDRED FIFTEEN DEGREES",
     "NEUTRAL CHESS KNIGHT ROTATED THREE HUNDRED FIFTEEN DEGREES,WHITE CHESS EQUIHOPPER",
     "BLACK CHESS EQUIHOPPER,NEUTRAL CHESS EQUIHOPPER",
     "WHITE CHESS EQUIHOPPER ROTATED NINETY DEGREES",
     "BLACK CHESS EQUIHOPPER ROTATED NINETY DEGREES",
     "NEUTRAL CHESS EQUIHOPPER ROTATED NINETY DEGREES"]⟩,
  ⟨0x1fa4e, "WHITE CHESS KNIGHT-", ["QUEEN,ROOK,BISHOP"]⟩,
  ⟨0x1fa51, "BLACK CHESS KNIGHT-", ["QUEEN,ROOK,BISHOP"]⟩,
  ⟨0x1fa60, "XIANGQI RED ", ["GENERAL,MANDARIN,ELEPHANT,HORSE,CHARIOT,CANNON,SOLDIER"]⟩,
  ⟨0x1fa67, "XIANGQI BLACK ", ["GENERAL,MANDARIN,ELEPHANT,HORSE,CHARIOT,CANNON,SOLDIER"]⟩,
  ⟨0x1fa70, "", ["BALLET SHOES,ONE-PIECE SWIMSUIT,BRIEFS,SHORTS,THONG SANDAL"]⟩,
  ⟨0x1fa78, "", ["DROP OF BLOOD,ADHESIVE BANDAGE,STETHOSCOPE,X-RAY,CRUTCH"]⟩,
  ⟨0x1fa80, "", ["YO-YO,KITE,PARACHUTE,BOOMERANG,MAGIC WAND,PINATA,NESTING DOLLS"]⟩,
  ⟨0x1fa90, "", ["RINGED PLANET,CHAIR,RAZOR,AXE,DIYA LAMP,BANJO,MILITARY HELMET,ACCORDION",
     "LONG DRUM,COIN,CARPENTRY SAW,SCREWDRIVER,LADDER,HOOK,MIRROR,WINDOW,PLUNGER",
     "SEWING NEEDLE,KNOT,BUCKET,MOUSE TRAP,TOOTHBRUSH,HEADSTONE,PLACARD,ROCK,MIRROR BALL",
     "IDENTIFICATION CARD,LOW BATTERY,HAMSA"]⟩,
  ⟨0x1fab0, "", ["FLY,WORM,BEETLE,COCKROACH,POTTED PLANT,WOOD,FEATHER,LOTUS,CORAL,EMPTY NEST",
     "NEST WITH EGGS"]⟩,
  ⟨0x1fac0, "", ["ANATOMICAL HEART,LUNGS,PEOPLE HUGGING,PREGNANT MAN,PREGNANT PERSON",
     "PERSON WITH CROWN"]⟩,
  ⟨0x1fad0, "", ["BLUEBERRIES,BELL PEPPER,OLIVE,FLATBREAD,TAMALE,FONDUE,TEAPOT",
     "POURING LIQUID,BEANS,JAR"]⟩,
  ⟨0x1fae0, "", ["MELTING FACE,SALUTING FACE,FACE WITH OPEN EYES AND HAND OVER MOUTH",
     "FACE WITH PEEKING EYE,FACE WITH DIAGONAL MOUTH,DOTTED LINE FACE,BITING LIP,BUBBLES"]⟩,
  ⟨0x1faf0, "", ["HAND WITH INDEX FINGER AND THUMB CROSSED,RIGHTWARDS HAND,LEFTWARDS HAND",
     "PALM DOWN HAND,PALM UP HAND,INDEX POINTING AT THE VIEWER,HEART HANDS"]⟩,
  ⟨0x1fb00, "BLOCK SEXTANT-", ["1,2,12,3,13,23,123,4,14,24,124,34,134,234,1234,5,15,25,125",
     "35,235,1235,45,145,245,1245,345,1345,2345,12345,6,16,26,126,36,136,236,1236,46,146,1246",
     "346,1346,2346,12346,56,156,256,1256,356,1356,2356,12356,456,1456,2456,12456,3456,13456",
     "23456"]⟩,
  ⟨0x1fb3c, "LOWER LEFT BLOCK DIAGONAL ", ["LOWER MIDDLE LEFT TO LOWER CENTRE",
     "LOWER MIDDLE LEFT TO LOWER RIGHT,UPPER MIDDLE LEFT TO LOWER CENTRE",
     "UPPER MIDDLE LEFT TO LOWER RIGHT,UPPER LEFT TO LOWER CENTRE"]⟩,
  ⟨0x1fb41, "LOWER RIGHT BLOCK DIAGONAL UPPER MIDDLE LEFT TO UPPER ", ["CENTRE,RIGHT"]⟩,
  ⟨0x1fb43, "LOWER RIGHT BLOCK DIAGONAL LOWER ", ["MIDDLE LEFT TO UPPER CENTRE",
     "MIDDLE LEFT TO UPPER RIGHT,LEFT TO UPPER CENTRE,MIDDLE LEFT TO UPPER MIDDLE RIGHT",
     "CENTRE TO LOWER MIDDLE RIGHT,LEFT TO LOWER MIDDLE RIGHT,CENTRE TO UPPER MIDDLE RIGHT",
     "LEFT TO UPPER MIDDLE RIGHT,CENTRE TO UPPER RIGHT"]⟩,
  ⟨0x1fb4c, "LOWER LEFT BLOCK DIAGONAL UPPER ", ["CENTRE TO UPPER MIDDLE RIGHT",
     "LEFT TO UPPER MIDDLE RIGHT,CENTRE TO LOWER MIDDLE RIGHT,LEFT TO LOWER MIDDLE RIGHT",
     "CENTRE TO LOWER RIGHT,MIDDLE LEFT TO LOWER MIDDLE RIGHT"]⟩,
  ⟨0x1fb52, "UPPER RIGHT BLOCK DIAGONAL ", ["LOWER MIDDLE LEFT TO LOWER CENTRE",
     "LOWER MIDDLE LEFT TO LOWER RIGHT,UPPER MIDDLE LEFT TO LOWER CENTRE",
     "UPPER MIDDLE LEFT TO LOWER RIGHT,UPPER LEFT TO LOWER CENTRE"]⟩,
  ⟨0x1fb57, "UPPER LEFT BLOCK DIAGONAL UPPER MIDDLE LEFT TO UPPER ", ["CENTRE,RIGHT"]⟩,
  ⟨0x1fb59, "UPPER LEFT BLOCK DIAGONAL LOWER ", ["MIDDLE LEFT TO UPPER CENTRE",
     "MIDDLE LEFT TO UPPER RIGHT,LEFT TO UPPER CENTRE,MIDDLE LEFT TO UPPER MIDDLE RIGHT",
     "CENTRE TO LOWER MIDDLE RIGHT,LEFT TO LOWER MIDDLE RIGHT,CENTRE TO UPPER MIDDLE RIGHT",
     "LEFT TO UPPER MIDDLE RIGHT,CENTRE TO UPPER RIGHT"]⟩,
  ⟨0x1fb62, "UPPER RIGHT BLOCK DIAGONAL UPPER ", ["CENTRE TO UPPER MIDDLE RIGHT",
     "LEFT TO UPPER MIDDLE RIGHT,CENTRE TO LOWER MIDDLE RIGHT,LEFT TO LOWER MIDDLE RIGHT",
     "CENTRE TO LOWER RIGHT,MIDDLE LEFT TO LOWER MIDDLE RIGHT"]⟩,
  ⟨0x1fb68, "", ["UPPER AND RIGHT AND LOWER TRIANGULAR THREE QUARTERS BLOCK",
     "LEFT AND LOWER AND RIGHT TRIANGULAR THREE QUARTERS BLOCK",
     "UPPER AND LEFT AND LOWER TRIANGULAR THREE QUARTERS BLOCK",
     "LEFT AND UPPER AND RIGHT TRIANGULAR THREE QUARTERS BLOCK",
     "LEFT TRIANGULAR ONE QUARTER BLOCK,UPPER TRIANGULAR ONE QUARTER BLOCK",
     "RIGHT TRIANGULAR ONE QUARTER BLOCK,LOWER TRIANGULAR ONE QUARTER BLOCK"]⟩,
  ⟨0x1fb70, "VERTICAL ONE EIGHTH BLOCK-", ["2,3,4,5,6,7"]⟩,
  ⟨0x1fb76, "HORIZONTAL ONE EIGHTH BLOCK-", ["2,3,4,5,6,7"]⟩,
  ⟨0x1fb7c, "", ["LEFT AND LOWER ONE EIGHTH BLOCK,LEFT AND UPPER ONE EIGHTH BLOCK",
     "RIGHT AND UPPER ONE EIGHTH BLOCK,RIGHT AND LOWER ONE EIGHTH BLOCK",
     "UPPER AND LOWER ONE EIGHTH BLOCK,HORIZONTAL ONE EIGHTH BLOCK-1358",
     "UPPER ONE QUARTER BLOCK,UPPER THREE EIGHTHS BLOCK,UPPER FIVE EIGHTHS BLOCK",
     "UPPER THREE QUARTERS BLOCK,UPPER SEVEN EIGHTHS BLOCK,RIGHT ONE QUARTER BLOCK",
     "RIGHT THREE EIGHTHS BLOCK,RIGHT FIVE EIGHTHS BLOCK,RIGHT THREE QUARTERS BLOCK",
     "RIGHT SEVEN EIGHTHS BLOCK,LEFT HALF MEDIUM SHADE,RIGHT HALF MEDIUM SHADE",
     "UPPER HALF MEDIUM SHADE,LOWER HALF MEDIUM SHADE,INVERSE MEDIUM SHADE",
     "UPPER HALF BLOCK AND LOWER HALF INVERSE MEDIUM SHADE",
     "UPPER HALF INVERSE MEDIUM SHADE AND LOWER HALF BLOCK"]⟩,
  ⟨0x1fb94, "", ["LEFT HALF INVERSE MEDIUM SHADE AND RIGHT HALF BLOCK,CHECKER BOARD FILL",
     "INVERSE CHECKER BOARD FILL,HEAVY HORIZONTAL FILL,UPPER LEFT TO LOWER RIGHT FILL",
     "UPPER RIGHT TO LOWER LEFT FILL,UPPER AND LOWER TRIANGULAR HALF BLOCK",
     "LEFT AND RIGHT TRIANGULAR HALF BLOCK,UPPER LEFT TRIANGULAR MEDIUM SHADE",
     "UPPER RIGHT TRIANGULAR MEDIUM SHADE,LOWER RIGHT TRIANGULAR MEDIUM SHADE",
     "LOWER LEFT TRIANGULAR MEDIUM SHADE"]⟩,
  ⟨0x1fba0, "BOX DRAWINGS LIGHT DIAGONAL ", ["UPPER CENTRE TO MIDDLE LEFT",
     "UPPER CENTRE TO MIDDLE RIGHT,MIDDLE LEFT TO LOWER CENTRE,MIDDLE RIGHT TO LOWER CENTRE",
     "UPPER CENTRE TO MIDDLE LEFT TO LOWER CENTRE",
     "UPPER CENTRE TO MIDDLE RIGHT TO LOWER CENTRE",
     "MIDDLE LEFT TO LOWER CENTRE TO MIDDLE RIGHT,MIDDLE LEFT TO UPPER CENTRE TO MIDDLE RIGHT",
     "UPPER CENTRE TO MIDDLE LEFT AND MIDDLE RIGHT TO LOWER CENTRE",
     "UPPER CENTRE TO MIDDLE RIGHT AND MIDDLE LEFT TO LOWER CENTRE",
     "UPPER CENTRE TO MIDDLE RIGHT TO LOWER CENTRE TO MIDDLE LEFT",
     "UPPER CENTRE TO MIDDLE LEFT TO LOWER CENTRE TO MIDDLE RIGHT",
     "MIDDLE LEFT TO UPPER CENTRE TO MIDDLE RIGHT TO LOWER CENTRE",
     "MIDDLE RIGHT TO UPPER CENTRE TO MIDDLE LEFT TO LOWER CENTRE,DIAMOND"]⟩,
  ⟨0x1fbaf, "", ["BOX DRAWINGS LIGHT HORIZONTAL WITH VERTICAL STROKE",
     "ARROWHEAD-SHAPED POINTER,INVERSE CHECK MARK,LEFT HALF RUNNING MAN",
     "RIGHT HALF RUNNING MAN,INVERSE DOWNWARDS ARROW WITH TIP LEFTWARDS",
     "LEFTWARDS ARROW AND UPPER AND LOWER ONE EIGHTH BLOCK",
     "RIGHTWARDS ARROW AND UPPER AND LOWER ONE EIGHTH BLOCK",
     "DOWNWARDS ARROW AND RIGHT ONE EIGHTH BLOCK,UPWARDS ARROW AND RIGHT ONE EIGHTH BLOCK",
     "LEFT HALF FOLDER,RIGHT HALF FOLDER,VOIDED GREEK CROSS,RIGHT OPEN SQUARED DOT",
     "NEGATIVE DIAGONAL CROSS,NEGATIVE DIAGONAL MIDDLE RIGHT TO LOWER CENTRE",
     "NEGATIVE DIAGONAL DIAMOND,WHITE HEAVY SALTIRE WITH ROUNDED CORNERS",
     "LEFT THIRD WHITE RIGHT POINTING INDEX,MIDDLE THIRD WHITE RIGHT POINTING INDEX",
     "RIGHT THIRD WHITE RIGHT POINTING INDEX,NEGATIVE SQUARED QUESTION MARK,STICK FIGURE",
     "STICK FIGURE WITH ARMS RAISED,STICK FIGURE LEANING LEFT,STICK FIGURE LEANING RIGHT",
     "STICK FIGURE WITH DRESS,WHITE UP-POINTING CHEVRON"]⟩,
  ⟨0x1fbf0, "SEGMENTED DIGIT ", ["ZERO,ONE,TWO,THREE,FOUR,FIVE,SIX,SEVEN,EIGHT,NINE"]⟩,
  ⟨0xe0001, "", ["LANGUAGE TAG"]⟩,
  ⟨0xe0020, "TAG ", ["SPACE,EXCLAMATION MARK,QUOTATION MARK,NUMBER SIGN,DOLLAR SIGN",
     "PERCENT SIGN,AMPERSAND,APOSTROPHE,LEFT PARENTHESIS,RIGHT PARENTHESIS,ASTERISK,PLUS SIGN",
     "COMMA,HYPHEN-MINUS,FULL STOP,SOLIDUS"]⟩,
  ⟨0xe0030, "TAG DIGIT ", ["ZERO,ONE,TWO,THREE,FOUR,FIVE,SIX,SEVEN,EIGHT,NINE"]⟩,
  ⟨0xe003a, "TAG ", ["COLON,SEMICOLON,LESS-THAN SIGN,EQUALS SIGN,GREATER-THAN SIGN",
     "QUESTION MARK,COMMERCIAL AT"]⟩,
  ⟨0xe0041, "TAG LATIN CAPITAL LETTER ", ["A,B,C,D,E,F,G,H,I,J,K,L,M,N,O,P,Q,R,S,T,U,V,W,X,Y",
     "Z"]⟩,
  ⟨0xe005b, "TAG ", ["LEFT SQUARE BRACKET,REVERSE SOLIDUS,RIGHT SQUARE BRACKET",
     "CIRCUMFLEX ACCENT,LOW LINE,GRAVE ACCENT"]⟩,
  ⟨0xe0061, "TAG LATIN SMALL LETTER ", ["A,B,C,D,E,F,G,H,I,J,K,L,M,N,O,P,Q,R,S,T,U,V,W,X,Y,Z"]⟩,
  ⟨0xe007b, "", ["TAG LEFT CURLY BRACKET,TAG VERTICAL LINE,TAG RIGHT CURLY BRACKET,TAG TILDE",
     "CANCEL TAG"]⟩,
  ⟨0xe0100, "VARIATION SELECTOR-", ["17,18,19,20,21,22,23,24,25,26,27,28,29,30,31,32,33,34",
     "35,36,37,38,39,40,41,42,43,44,45,46,47,48,49,50,51,52,53,54,55,56,57,58,59,60,61,62,63",
     "64,65,66,67,68,69,70,71,72,73,74,75,76,77,78,79,80,81,82,83,84,85,86,87,88,89,90,91,92",
     "93,94,95,96,97,98,99,100,101,102,103,104,105,106,107,108,109,110,111,112,113,114,115",
     "116,117,118,119,120,121,122,123,124,125,126,127,128,129,130,131,132,133,134,135,136,137",
     "138,139,140,141,142,143,144,145,146,147,148,149,150,151,152,153,154,155,156,157,158,159",
     "160,161,162,163,164,165,166,167,168,169,170,171,172,173,174,175,176,177,178,179,180,181",
     "182,183,184,185,186,187,188,189,190,191,192,193,194,195,196,197,198,199,200,201,202,203",
     "204,205,206,207,208,209,210,211,212,213,214,215,216,217,218,219,220,221,222,223,224,225",
     "226,227,228,229,230,231,232,233,234,235,236,237,238,239,240,241,242,243,244,245,246,247",
     "248,249,250,251,252,253,254,255,256"]⟩]

end ScanAccess.Codec.CharacterName
